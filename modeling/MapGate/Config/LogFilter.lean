import MapGate.Config.Environment
import MapGate.Config.Logging
import MapGate.Text.Blank

/-!
Log filters. A filter is a set of directives, each a level for everything or for one target. The
directives of the environment, if they can all be read, take the place of the configured ones, of
which unreadable ones are ignored.
-/
namespace MapGate

inductive LogLevel where
  | off
  | error
  | warn
  | info
  | debug
  | trace
deriving DecidableEq, Repr

namespace LogLevel

def text : LogLevel → String
  | off => "off"
  | error => "error"
  | warn => "warn"
  | info => "info"
  | debug => "debug"
  | trace => "trace"

/-- A level by its name in any case of letters, or by its number. -/
def ofText? (s : String) : Option LogLevel :=
  match String.ofList (s.toList.map Char.toLower) with
  | "off" => some off
  | "0" => some off
  | "error" => some error
  | "1" => some error
  | "warn" => some warn
  | "2" => some warn
  | "info" => some info
  | "3" => some info
  | "debug" => some debug
  | "4" => some debug
  | "trace" => some trace
  | "5" => some trace
  | _ => none

end LogLevel

structure LogDirective where
  target : Option String
  level : LogLevel
deriving DecidableEq, Repr

namespace LogDirective

def isTargetChar (c : Char) : Bool := c.isAlphanum || c == '_' || c == ':' || c == '-'

def isTarget (cs : List Char) : Bool := !cs.isEmpty && cs.all isTargetChar

/-- A level, a target with a level, or a target, which then logs everything. -/
def ofText? (s : String) : Option LogDirective :=
  match LogLevel.ofText? s with
  | some level => some ⟨none, level⟩
  | none =>
    match Text.split '=' s.toList with
    | [target] => if isTarget target then some ⟨some (String.ofList target), .trace⟩ else none
    | [target, level] =>
      if isTarget target then
        if level.isEmpty then some ⟨some (String.ofList target), .trace⟩
        else (LogLevel.ofText? (String.ofList level)).map (⟨some (String.ofList target), ·⟩)
      else none
    | _ => none

def text (d : LogDirective) : String :=
  match d.target with
  | some target => target ++ "=" ++ d.level.text
  | none => d.level.text

/-- Order by specificity: longer targets come first, and no target last. -/
def before (a b : LogDirective) : Bool :=
  match a.target, b.target with
  | some s, some t => t.utf8ByteSize < s.utf8ByteSize || (s.utf8ByteSize == t.utf8ByteSize && t < s)
  | some _, none => true
  | none, _ => false

/-- Adds a directive in its place, over an earlier one for the same target. -/
def insert (d : LogDirective) : List LogDirective → List LogDirective
  | [] => [d]
  | e :: rest =>
    if d.target = e.target then d :: rest
    else if d.before e then d :: e :: rest
    else e :: insert d rest

end LogDirective

structure LogFilter where
  directives : List LogDirective
deriving DecidableEq, Repr

namespace LogFilter

def ofDirectives (ds : List LogDirective) : LogFilter :=
  ⟨ds.foldl (fun set d => LogDirective.insert d set) []⟩

def pieces (s : String) : List String :=
  ((Text.split ',' s.toList).filter fun p => !p.isEmpty).map String.ofList

def parse? (s : String) : Option LogFilter := ((pieces s).mapM LogDirective.ofText?).map ofDirectives

/-- The readable directives of a comma separated list; without any, errors alone are logged. -/
def parseReadable (s : String) : LogFilter :=
  match (pieces s).filterMap LogDirective.ofText? with
  | [] => ofDirectives [⟨none, .error⟩]
  | ds => ofDirectives ds

def text (f : LogFilter) : String := String.intercalate "," (f.directives.map LogDirective.text)

/-- The filter of the environment variable `RUST_LOG`, or else the configured one. -/
def ofEnvironment (env : Environment) (config : LoggingConfig) : LogFilter :=
  ((env "RUST_LOG").bind parse?).getD (parseReadable config.level)

end LogFilter
end MapGate
