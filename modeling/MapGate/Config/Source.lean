import MapGate.Config.Decode
import MapGate.Config.Environment
import MapGate.Toml.Reader

/-!
Configuration sources: the built-in defaults, a TOML file, the environment. They are merged by
precedence, sources of one precedence in the order given, and the first one that fails decides.
-/
namespace MapGate

inductive Precedence where
  | defaults
  | configFile
  | environment
deriving DecidableEq, Repr

def Precedence.rank : Precedence → Nat
  | defaults => 10
  | configFile => 20
  | environment => 50

inductive FileContent where
  | missing
  | directory
  | bytes (content : ByteArray)

/-- The layer of a configuration file. A missing file sets nothing. -/
def FileContent.layer : FileContent → Except ConfigError ConfigLayer
  | missing => .ok {}
  | directory => .error .fileUnreadable
  | bytes content =>
    match String.fromUTF8? content with
    | none => .error .fileUnreadable
    | some text =>
      match (Toml.parse? text).bind ConfigLayer.ofDocument? with
      | some layer => .ok layer
      | none => .error .malformedToml

structure ConfigSource where
  name : String
  precedence : Precedence
  layer : Except ConfigError ConfigLayer

namespace ConfigSource

/-- The defaults are filled in at the end, so their source sets nothing. -/
def defaults : ConfigSource := ⟨"defaults", .defaults, .ok {}⟩

def toml (file : FileContent) : ConfigSource := ⟨"toml-config", .configFile, file.layer⟩

def environment (env : Environment) : ConfigSource := ⟨"environment", .environment, env.layer⟩

def ordered (sources : List ConfigSource) : List ConfigSource :=
  sources.mergeSort fun a b => a.precedence.rank ≤ b.precedence.rank

end ConfigSource

namespace Config

def ofSources (sources : List ConfigSource) : Except ConfigError Config := do
  let layers ← (ConfigSource.ordered sources).mapM ConfigSource.layer
  (ConfigLayer.mergeAll layers).finalize

def ofFile (file : FileContent) (env : Environment) : Except ConfigError Config :=
  ofSources [.defaults, .toml file, .environment env]

end Config
end MapGate
