import MapGate.Config.Finalize
import MapGate.Text.Digit

/-!
Settings from environment variables. A variable that is unset, empty or no text sets nothing. The
first number that cannot be read is the error.
-/
namespace MapGate

/-- The texts of the variables that have one. -/
abbrev Environment := String → Option String

namespace Environment

/-- The text of a variable that is set and not empty. -/
def get? (env : Environment) (name : String) : Option String :=
  match env name with
  | some text => if text.isEmpty then none else some text
  | none => none

/-- `true`, in any case of letters, and `1` are true; every other text is false. -/
def readFlag (text : String) : Bool :=
  text.toList.map Char.toLower == "true".toList || text == "1"

def flag? (env : Environment) (name : String) : Option Bool := (env.get? name).map readFlag

/-- Digits after an optional plus sign, in the range of words of the given width. -/
def readNumber? (width : Nat) (text : String) : Option Nat :=
  let digits :=
    match text.toList with
    | '+' :: rest => rest
    | cs => cs
  match Text.number? 10 digits with
  | some n => if n < Nat.pow 2 width then some n else none
  | none => none

def number? (env : Environment) (name : String) (width : Nat) : Except ConfigError (Option Nat) :=
  match env.get? name with
  | none => .ok none
  | some text =>
    match readNumber? width text with
    | some n => .ok (some n)
    | none => .error (.invalidNumber name width text)

def list? (env : Environment) (name : String) : Option (List String) :=
  (env.get? name).map commaItems

def bruteForce (env : Environment) : Except ConfigError BruteForceLayer := do
  let minDelay ← env.number? "GEOGUARD_BRUTE_FORCE_MIN_DELAY_MS" 64
  let maxDelay ← env.number? "GEOGUARD_BRUTE_FORCE_MAX_DELAY_MS" 64
  let maxBlocked ← env.number? "GEOGUARD_BRUTE_FORCE_MAX_BLOCKED_THREADS" 32
  return {
    enabled := env.flag? "GEOGUARD_BRUTE_FORCE_ENABLED"
    minDelay := minDelay.map UInt64.ofNat
    maxDelay := maxDelay.map UInt64.ofNat
    maxBlocked := maxBlocked.map UInt32.ofNat
    whitelist := env.list? "GEOGUARD_BRUTE_FORCE_WHITELIST" }

def logging (env : Environment) : LoggingLayer where
  level := env.get? "GEOGUARD_LOG_LEVEL"
  json := env.flag? "GEOGUARD_LOG_JSON"

/-- The layer the environment sets. Filter chains cannot be set there. -/
def layer (env : Environment) : Except ConfigError ConfigLayer := do
  let bruteForce ← env.bruteForce
  return { bruteForce := some bruteForce, logging := some env.logging }

end Environment
end MapGate
