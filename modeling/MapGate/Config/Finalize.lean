import MapGate.Config.Layer
import MapGate.Text.Blank

/-!
Finalizing a configuration layer: the defaults are filled in and the result is checked. The first
violation is the error; the delays come before the filter chains, and these in declared order.
-/
namespace MapGate

inductive Violation where
  | delaysReversed (min max : UInt64)
  | emptyChainName
  | duplicateChainName (name : String)
  | noPatterns (name : String)
deriving DecidableEq, Repr

def Violation.message : Violation → String
  | delaysReversed min max =>
    "brute_force.min_delay_ms (" ++ toString min ++
      ") is greater than brute_force.max_delay_ms (" ++ toString max ++ ")"
  | emptyChainName => "filter chain with empty name"
  | duplicateChainName name => "duplicate filter chain name '" ++ name ++ "'"
  | noPatterns name => "filter chain '" ++ name ++ "' has no patterns"

inductive ConfigError where
  | fileUnreadable
  | malformedToml
  /-- A variable whose text is no number of the given width in bits. -/
  | invalidNumber (name : String) (width : Nat) (text : String)
  | invalid (violation : Violation)
deriving DecidableEq, Repr

def ConfigError.message : ConfigError → String
  | fileUnreadable => "failed to read config file"
  | malformedToml => "failed to parse config file"
  | invalidNumber name width text =>
    "invalid value for " ++ name ++ ": invalid u" ++ toString width ++ " value '" ++ text ++ "'"
  | invalid violation => "configuration validation failed: " ++ violation.message

/-- The violation of a chain whose predecessors have the given names. -/
def FilterChain.violation? (seen : List String) (c : FilterChain) : Option Violation :=
  if blank c.name then some .emptyChainName
  else if seen.contains c.name then some (.duplicateChainName c.name)
  else if !c.disabled && c.patterns.all blank then some (.noPatterns c.name)
  else none

def chainsViolation? : List String → List FilterChain → Option Violation
  | _, [] => none
  | seen, c :: rest =>
    match c.violation? seen with
    | some v => some v
    | none => chainsViolation? (c.name :: seen) rest

def BruteForceConfig.violation? (c : BruteForceConfig) : Option Violation :=
  if c.maxDelay < c.minDelay then some (.delaysReversed c.minDelay c.maxDelay) else none

def Config.violation? (c : Config) : Option Violation :=
  c.bruteForce.violation?.or (chainsViolation? [] c.filterChains)

namespace ConfigLayer

def finalize (layer : ConfigLayer) : Except ConfigError Config :=
  match layer.complete.violation? with
  | some v => .error (.invalid v)
  | none => .ok layer.complete

end ConfigLayer
end MapGate
