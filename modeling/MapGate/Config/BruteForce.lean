/-!
Settings of the delay after failed logins. A layer sets some of them; what no layer sets has a
default. Delays are in milliseconds, and a cap of zero means that there is none.
-/
namespace MapGate

structure BruteForceConfig where
  enabled : Bool := true
  minDelay : UInt64 := 1000
  maxDelay : UInt64 := 5000
  maxBlocked : UInt32 := 100
  whitelist : List String := ["127.0.0.1", "::1"]
deriving DecidableEq, Repr

structure BruteForceLayer where
  enabled : Option Bool := none
  minDelay : Option UInt64 := none
  maxDelay : Option UInt64 := none
  maxBlocked : Option UInt32 := none
  whitelist : Option (List String) := none
deriving DecidableEq, Repr

namespace BruteForceLayer

/-- What `upper` sets, and where it does not, what `lower` sets. -/
def merge (lower upper : BruteForceLayer) : BruteForceLayer where
  enabled := upper.enabled.or lower.enabled
  minDelay := upper.minDelay.or lower.minDelay
  maxDelay := upper.maxDelay.or lower.maxDelay
  maxBlocked := upper.maxBlocked.or lower.maxBlocked
  whitelist := upper.whitelist.or lower.whitelist

def complete (layer : BruteForceLayer) : BruteForceConfig :=
  let defaults : BruteForceConfig := {}
  { enabled := layer.enabled.getD defaults.enabled
    minDelay := layer.minDelay.getD defaults.minDelay
    maxDelay := layer.maxDelay.getD defaults.maxDelay
    maxBlocked := layer.maxBlocked.getD defaults.maxBlocked
    whitelist := layer.whitelist.getD defaults.whitelist }

end BruteForceLayer
end MapGate
