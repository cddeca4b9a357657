import MapGate.Proofs.Pipeline.RegistryResolution
import MapGate.Proofs.Pipeline.StageLifetime

/-!
Rebuilding twice from the same chains. The first rebuild retires instances of the old table, which
changes the registry, but under no name that the chains ask for: what such a name stands for is in
the new table or was retired before. So the second rebuild finds what the first one found, and there
is nothing left to destroy.
-/
namespace MapGate

theorem FilterChain.compiledFrom_congr {stage? other? : String → Option Stage} {c : FilterChain}
    (agree : ∀ name ∈ c.stageNames, other? name = stage? name) :
    c.compiledFrom other? = c.compiledFrom stage? := by
  unfold compiledFrom
  rw [stagesFrom_eq, stagesFrom_eq, List.filterMap_congr agree]

namespace Proxy

variable {p : Proxy StageRegistry} (byRegistry : p.resolver = StageRegistry.resolver)
  (apart : ∀ id ∈ stageIds p.retired, id ∉ p.table.ids) (chains : List FilterChain)

include byRegistry

theorem mem_ids_rebuild {c : FilterChain} (declared : c ∈ chains) {name : String}
    (named : name ∈ c.stageNames) {s : Stage}
    (live : p.resolverState.liveFind? p.retired name = some s) :
    s.id ∈ (p.rebuild chains).2.table.ids := by
  have inside : s ∈ c.stagesFrom (p.resolverState.liveFind? p.retired) := by
    rw [FilterChain.stagesFrom_eq]
    exact List.mem_filterMap.mpr ⟨name, named, live⟩
  have compiled : c.compiledFrom (p.resolverState.liveFind? p.retired) ∈
      (p.rebuild chains).2.table.chains := by
    rw [p.chains_rebuild byRegistry]
    exact List.mem_map_of_mem declared
  exact List.mem_map_of_mem (List.mem_flatMap.mpr ⟨_, compiled, inside⟩)

include apart

/-- A rebuild destroys nothing that a name of its chains stands for. -/
theorem not_destroyed_of_find? {c : FilterChain} (declared : c ∈ chains) {name : String}
    (named : name ∈ c.stageNames) {s : Stage} (found : p.resolverState.find? name = some s) :
    s.id ∉ stageIds (p.rebuild chains).1 := by
  intro destroyed
  obtain ⟨old, dropped⟩ := (destroyed_iff p chains s.id).mp destroyed
  by_cases retired : s.id ∈ stageIds p.retired
  · exact apart s.id retired old
  · refine dropped (mem_ids_rebuild byRegistry chains declared named ?_)
    rw [StageRegistry.liveFind?, found]
    exact Option.filter_some_pos (decide_eq_true retired)

/-- After a rebuild the names of its chains stand for what they stood for before. -/
theorem liveFind?_rebuild {c : FilterChain} (declared : c ∈ chains) {name : String}
    (named : name ∈ c.stageNames) :
    (p.rebuild chains).2.resolverState.liveFind? (p.rebuild chains).2.retired name =
      p.resolverState.liveFind? p.retired name := by
  have kept {s : Stage} := not_destroyed_of_find? byRegistry apart chains declared named (s := s)
  have same : (p.rebuild chains).2.resolverState.find? name = p.resolverState.find? name := by
    rw [p.registry_rebuild byRegistry]
    exact StageRegistry.find?_retireAll fun s => kept
  unfold StageRegistry.liveFind?
  rw [same, retired_rebuild]
  cases found : p.resolverState.find? name with
  | none => rfl
  | some s => simp [Option.filter_some, kept found]

theorem table_rebuild_again :
    ((p.rebuild chains).2.rebuild chains).2.table = (p.rebuild chains).2.table := by
  refine congrArg PipelineTable.mk ?_
  have resolver : (p.rebuild chains).2.resolver = StageRegistry.resolver := byRegistry
  have second := (p.rebuild chains).2.chains_rebuild resolver chains
  have first := p.chains_rebuild byRegistry chains
  refine second.trans (Eq.trans ?_ first.symm)
  apply List.map_congr_left
  intro c declared
  apply FilterChain.compiledFrom_congr
  intro name named
  exact liveFind?_rebuild byRegistry apart chains declared named

theorem destroyed_rebuild_again : ((p.rebuild chains).2.rebuild chains).1 = [] := by
  refine List.eq_nil_iff_forall_not_mem.mpr ?_
  intro s member
  obtain ⟨old, dropped⟩ := (destroyed_iff _ chains s.id).mp (List.mem_map_of_mem member)
  rw [table_rebuild_again byRegistry apart chains] at dropped
  exact dropped old

theorem rebuild_rebuild (cached : Option AuthCache) :
    ({ (p.rebuild chains).2 with cache := cached } : Proxy StageRegistry).rebuild chains =
      ([], { (p.rebuild chains).2 with cache := cached.map AuthCache.clear }) := by
  have table := table_rebuild_again byRegistry apart chains
  have none := destroyed_rebuild_again byRegistry apart chains
  have registry := (p.rebuild chains).2.registry_rebuild byRegistry chains
  rw [none, List.foldl_nil] at registry
  -- the cache has no part in what is published and destroyed
  have second : ({ (p.rebuild chains).2 with cache := cached } : Proxy StageRegistry).rebuild chains =
      (((p.rebuild chains).2.rebuild chains).1,
        { (p.rebuild chains).2 with
          table := ((p.rebuild chains).2.rebuild chains).2.table
          retired := (p.rebuild chains).2.retired ++ ((p.rebuild chains).2.rebuild chains).1
          resolverState := ((p.rebuild chains).2.rebuild chains).2.resolverState
          cache := cached.map AuthCache.clear }) := rfl
  rw [second, none, table, registry, List.append_nil]

end Proxy

namespace ProxyHistory

theorem resolver_run {σ : Type} (h : ProxyHistory σ) (events : List (ProxyEvent σ)) :
    (h.run events).proxy.resolver = h.proxy.resolver := by
  induction events generalizing h with
  | nil => rfl
  | cons event rest ih =>
    have first : (h.step event).proxy.resolver = h.proxy.resolver := by cases event <;> rfl
    exact (ih (h.step event)).trans first

/-- Whatever was registered, taken out and published before, destroyed instances put back among it,
a second rebuild from the same chains destroys nothing and leaves the table, the retired instances
and the registry as the first one left them, if nobody changed the registry in between. -/
theorem rebuild_again_changes_nothing (registry : StageRegistry) (cache : Option AuthCache)
    (events : List (ProxyEvent StageRegistry)) (chains : List FilterChain) :
    let p := ((start StageRegistry.resolver registry cache).run events).proxy
    ∀ cached, ({ (p.rebuild chains).2 with cache := cached } : Proxy StageRegistry).rebuild chains =
      ([], { (p.rebuild chains).2 with cache := cached.map AuthCache.clear }) := by
  intro p cached
  have balanced := balanced_run (balanced_start StageRegistry.resolver registry cache) events
  exact Proxy.rebuild_rebuild (resolver_run _ events) balanced.apart chains cached

/-- An instance that was destroyed and put back is refused the second time as it was the first. -/
example :
    let own : Stage := ⟨.given "own", "audit"⟩
    let chain : FilterChain := { name := "web", filterNames := ["audit"] }
    let put (r : StageRegistry) : StageRegistry := (r.register own).2
    let p := ((start StageRegistry.resolver .withBuiltins none).run
      [.resolverChange put, .rebuild [chain], .rebuild [], .resolverChange put]).proxy
    (p.rebuild [chain]).2.resolverState.find? "audit" = some own ∧
      (p.rebuild [chain]).2.table.allStages.map Stage.name = ["noSessionContext"] ∧
      ((p.rebuild [chain]).2.rebuild [chain]).1 = [] := by
  decide +kernel

end ProxyHistory
end MapGate
