import MapGate.Config.BruteForce
import MapGate.Config.FilterChain
import MapGate.Config.Logging

/-!
Configuration layers and their merging. A layer sets some fields of the security configuration; a
later layer overrides an earlier one field by field, but a list of filter chains as a whole.
-/
namespace MapGate

structure ConfigLayer where
  bruteForce : Option BruteForceLayer := none
  logging : Option LoggingLayer := none
  filterChains : Option (List FilterChain) := none
deriving DecidableEq, Repr

structure Config where
  bruteForce : BruteForceConfig := {}
  logging : LoggingConfig := {}
  filterChains : List FilterChain := []
deriving DecidableEq, Repr

namespace ConfigLayer

def mergeSection {α : Type} (merge : α → α → α) : Option α → Option α → Option α
  | lower, none => lower
  | none, upper => upper
  | some lower, some upper => some (merge lower upper)

/-- What `upper` sets, and where it does not, what `lower` sets. -/
def merge (lower upper : ConfigLayer) : ConfigLayer where
  bruteForce := mergeSection BruteForceLayer.merge lower.bruteForce upper.bruteForce
  logging := mergeSection LoggingLayer.merge lower.logging upper.logging
  filterChains := upper.filterChains.or lower.filterChains

def mergeAll (layers : List ConfigLayer) : ConfigLayer := layers.foldl merge {}

def complete (layer : ConfigLayer) : Config where
  bruteForce := (layer.bruteForce.getD {}).complete
  logging := (layer.logging.getD {}).complete
  filterChains := layer.filterChains.getD []

end ConfigLayer
end MapGate
