import MapGate.Auth.Guard
import MapGate.Catalog.Registry
import MapGate.Config.Layer
import MapGate.Pipeline.Proxy

/-!
The gate: the guard, the pipeline and the catalog filters of one server. A new configuration is
applied to all three, the guard first. If the guard refuses it, nothing changes.
-/
namespace MapGate

inductive ReloadError where
  | bruteForce (cause : WhitelistError)
deriving DecidableEq, Repr

def ReloadError.message : ReloadError → String
  | bruteForce cause => "brute force settings rejected: " ++ cause.message

structure Gate (σ : Type) where
  guard : Guard
  pipeline : Proxy σ
  filters : Catalog.Registry

namespace Gate

variable {σ : Type}

def ofConfig (config : Config) (resolver : Resolver σ) (state : σ) (filters : Catalog.Registry) :
    Except ReloadError (Gate σ) :=
  match Guard.ofConfig config.bruteForce with
  | .error cause => .error (.bruteForce cause)
  | .ok guard =>
    let proxy : Proxy σ := { resolver, resolverState := state }
    .ok { guard, pipeline := (proxy.rebuild config.filterChains).2, filters }

/-- Gives the guard new settings, which it may refuse. -/
def reconfigureGuard (g : Gate σ) (config : BruteForceConfig) :
    Except ReloadError Unit × Gate σ :=
  match g.guard.reconfigure config with
  | .error cause => (.error (.bruteForce cause), g)
  | .ok guard => (.ok (), { g with guard })

/-- Applies a new configuration to one component after the other. The guard comes first; if it
accepts its settings, it forgets tracked usernames, the filters are loaded anew at the next access,
and the table is rebuilt. The destroyed stages are returned. -/
def reload (g : Gate σ) (config : Config) : Except ReloadError (List Stage) × Gate σ :=
  match g.reconfigureGuard config.bruteForce with
  | (.error e, g) => (.error e, g)
  | (.ok (), g) =>
    let g := { g with guard := g.guard.reset }
    let g := { g with filters := g.filters.reset }
    let (destroyed, pipeline) := g.pipeline.rebuild config.filterChains
    (.ok destroyed, { g with pipeline })

def shutdown (g : Gate σ) : List Ending × Gate σ :=
  let (endings, guard) := g.guard.shutdown
  (endings, { g with guard })

end Gate
end MapGate
