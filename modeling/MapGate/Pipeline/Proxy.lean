import MapGate.Pipeline.AuthCache
import MapGate.Pipeline.Table

/-!
The published pipeline table and its rebuilding. A rebuild compiles a fresh table, publishes it,
destroys the stages that only the old table used, and clears cached authentication results. A
destroyed instance is never published again, even if the resolver still hands it out.
-/
namespace MapGate

/-- A matched chain by its place in a table, kept with that table. -/
structure MatchedPipeline where
  table : PipelineTable
  index : Fin table.chains.length

def MatchedPipeline.chain (m : MatchedPipeline) : CompiledChain := m.table.chains[m.index]

structure Proxy (σ : Type) where
  table : PipelineTable := .empty
  /-- Every instance destroyed so far, in order. -/
  retired : List Stage := []
  resolver : Resolver σ
  resolverState : σ
  cache : Option AuthCache := none

namespace Proxy

/-- The first matching chain of the published table. -/
def lookup {σ : Type} (p : Proxy σ) (path method : String) : Option MatchedPipeline :=
  (p.table.chains.findFinIdx? fun c => c.isMatch path method).map fun index => ⟨p.table, index⟩

/-- Publishes the table of the given chains. The stages destroyed by it are returned. -/
def rebuild {σ : Type} (p : Proxy σ) (chains : List FilterChain) : List Stage × Proxy σ :=
  let (fresh, s) := PipelineTable.compile (p.resolver.without p.retired) chains p.resolverState
  let destroyed := p.table.uniqueStages.filter fun stage => !fresh.containsStage stage
  (destroyed,
    { p with
      table := fresh
      retired := p.retired ++ destroyed
      resolverState := destroyed.foldl (fun s stage => p.resolver.retire stage s) s
      cache := p.cache.map AuthCache.clear })

end Proxy
end MapGate
