/-!
Settings of the log: the filter directive and the format. A directive from the environment takes
the place of the configured one.
-/
namespace MapGate

structure LoggingConfig where
  level : String := "info"
  json : Bool := false
deriving DecidableEq, Repr

structure LoggingLayer where
  level : Option String := none
  json : Option Bool := none
deriving DecidableEq, Repr

namespace LoggingLayer

def merge (lower upper : LoggingLayer) : LoggingLayer where
  level := upper.level.or lower.level
  json := upper.json.or lower.json

def complete (layer : LoggingLayer) : LoggingConfig :=
  let defaults : LoggingConfig := {}
  { level := layer.level.getD defaults.level, json := layer.json.getD defaults.json }

end LoggingLayer
end MapGate
