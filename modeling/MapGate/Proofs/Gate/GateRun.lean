import MapGate.Gate.Basic
import MapGate.Proofs.Auth.GuardRun
import MapGate.Proofs.Pipeline.CacheRun

/-!
Runs of a gate. An event asks one of its components, changes what the stage resolver or the clocks
show, or reloads the configuration. A trace holds each event of a run with what it was answered.
-/
namespace MapGate

/-- An access to the filters comes with what their loader would answer now. -/
inductive GateEvent (σ : Type) where
  | guard (event : GuardEvent)
  | filters (answer : List Catalog.Filter)
  | resetFilters
  | lookup (path method : String)
  | cache (event : CacheEvent)
  | resolverChange (change : σ → σ)
  | reload (config : Config)

def GateEvent.accessesFilters {σ : Type} : GateEvent σ → Bool
  | filters _ => true
  | _ => false

inductive GateAnswer where
  | guard (answer : GuardAnswer)
  | filters (list : List Catalog.Filter)
  | pipeline (found : Option MatchedPipeline)
  | cache (answer : Option CacheAnswer)
  | reloaded (result : Except ReloadError (List Stage))
  | done

/-- The answer to a reload that was refused. -/
def GateAnswer.isRefusal : GateAnswer → Bool
  | reloaded (.error _) => true
  | _ => false

namespace Gate

variable {σ : Type}

def answer (g : Gate σ) : GateEvent σ → GateAnswer
  | .guard event => .guard (g.guard.answer event)
  | .filters answer => .filters (g.filters.filters answer).1
  | .lookup path method => .pipeline (g.pipeline.lookup path method)
  | .cache event => .cache (g.pipeline.cache.map (·.answer event))
  | .reload config => .reloaded (g.reload config).1
  | .resetFilters | .resolverChange _ => .done

def step (g : Gate σ) : GateEvent σ → Gate σ
  | .guard event => { g with guard := g.guard.step event }
  | .filters answer => { g with filters := (g.filters.filters answer).2 }
  | .resetFilters => { g with filters := g.filters.reset }
  | .lookup _ _ => g
  | .cache event =>
    { g with pipeline := { g.pipeline with cache := g.pipeline.cache.map (·.step event) } }
  | .resolverChange change =>
    { g with
      pipeline := { g.pipeline with resolverState := change g.pipeline.resolverState } }
  | .reload config => (g.reload config).2

def run (g : Gate σ) (events : List (GateEvent σ)) : Gate σ := events.foldl step g

def trace (g : Gate σ) : List (GateEvent σ) → List (GateEvent σ × GateAnswer)
  | [] => []
  | event :: rest => (event, g.answer event) :: trace (g.step event) rest

end Gate
end MapGate
