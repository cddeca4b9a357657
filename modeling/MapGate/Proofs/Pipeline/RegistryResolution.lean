import MapGate.Proofs.Pipeline.ChainSelection
import MapGate.Proofs.Pipeline.TableStages

/-!
Registries as resolvers. Each operation of a registry changes what is found under one name and
nothing else. A proxy that resolves by a registry publishes what the names stand for, less the
instances that were retired before.
-/
namespace MapGate

namespace StageRegistry

theorem name_of_find? {r : StageRegistry} {name : String} {s : Stage}
    (found : r.find? name = some s) : s.name = name := by
  simpa using List.find?_some found

theorem mem_of_find? {r : StageRegistry} {name : String} {s : Stage}
    (found : r.find? name = some s) : s ∈ r.stages :=
  List.mem_of_find?_eq_some found

theorem find?_unregister (r : StageRegistry) (name other : String) :
    (r.unregister name).2.find? other = if other = name then none else r.find? other := by
  unfold unregister find?
  rw [List.find?_filter]
  by_cases same : other = name
  · rw [if_pos same, List.find?_eq_none]
    intro s _
    simp [same]
  · rw [if_neg same]
    congr 1
    funext s
    by_cases named : s.name = other <;> simp [named, same]

theorem find?_register (r : StageRegistry) (stage : Stage) (name : String) :
    (r.register stage).2.find? name = if name = stage.name then some stage else r.find? name := by
  have others := find?_unregister r stage.name name
  have split : (r.register stage).2.find? name =
      ((r.unregister stage.name).2.find? name).or (find? ⟨[stage], 0⟩ name) := List.find?_append
  rw [split, others]
  by_cases same : name = stage.name
  · simp [find?, same]
  · have different : stage.name ≠ name := Ne.symm same
    simp [find?, same, different]

theorem find?_renew (r : StageRegistry) (name other : String) :
    (r.renew name).find? other =
      if other = name then some ⟨.builtin r.nextSerial, name⟩ else r.find? other :=
  find?_register r ⟨.builtin r.nextSerial, name⟩ other

/-- What is found under a name, unless the instance is retired. -/
def liveFind? (r : StageRegistry) (retired : List Stage) (name : String) : Option Stage :=
  (r.find? name).filter fun s => s.id ∉ stageIds retired

theorem steady_without (r : StageRegistry) (retired : List Stage) :
    (resolver.without retired).Steady (r.liveFind? retired) (· = r) := by
  intro s same name
  subst same
  unfold Resolver.without resolver liveFind?
  dsimp only
  cases found : s.find? name with
  | none => exact ⟨rfl, rfl⟩
  | some stage =>
    by_cases gone : stage.id ∈ stageIds retired
    · have refused : (retired.any fun t => t.id == stage.id) = true := by
        simpa [stageIds] using gone
      simp [refused, gone, Option.filter_some]
    · have kept : (retired.any fun t => t.id == stage.id) = false := by
        simpa [stageIds] using gone
      simp [kept, gone, Option.filter_some]

/-- Retiring an instance changes nothing under a name that stands for another one. -/
theorem find?_retire {r : StageRegistry} {stage : Stage} {name : String}
    (other : ∀ s, r.find? name = some s → s.id ≠ stage.id) :
    (r.retire stage).find? name = r.find? name := by
  unfold retire
  split
  case h_1 current found =>
    split
    case isTrue registered =>
      have elsewhere : name ≠ stage.name := by
        rintro rfl
        exact other current found registered
      split
      · rw [find?_renew, if_neg elsewhere]
      · rw [find?_unregister, if_neg elsewhere]
    case isFalse => rfl
  case h_2 => rfl

theorem find?_retireAll {r : StageRegistry} {stages : List Stage} {name : String}
    (other : ∀ s, r.find? name = some s → s.id ∉ stageIds stages) :
    (stages.foldl (fun r s => r.retire s) r).find? name = r.find? name := by
  induction stages generalizing r with
  | nil => rfl
  | cons stage rest ih =>
    have first : (r.retire stage).find? name = r.find? name :=
      find?_retire fun s found same => other s found (List.mem_cons.mpr (.inl same))
    rw [List.foldl_cons, ih, first]
    intro s found member
    exact other s (first ▸ found) (List.mem_cons_of_mem _ member)

end StageRegistry

namespace Proxy

variable (p : Proxy StageRegistry) (byRegistry : p.resolver = StageRegistry.resolver)
include byRegistry

/-- What the names of the chains stand for is published, but for retired instances. -/
theorem chains_rebuild (chains : List FilterChain) :
    (p.rebuild chains).2.table.chains =
      chains.map (·.compiledFrom (p.resolverState.liveFind? p.retired)) := by
  unfold rebuild PipelineTable.compile
  dsimp only
  rw [byRegistry]
  exact ((StageRegistry.steady_without _ _).compileChains chains rfl).1

/-- The registry hears of each destroyed instance, and of nothing else. -/
theorem registry_rebuild (chains : List FilterChain) :
    (p.rebuild chains).2.resolverState =
      (p.rebuild chains).1.foldl (fun r s => r.retire s) p.resolverState := by
  have same := ((StageRegistry.steady_without p.resolverState p.retired).compileChains chains rfl).2
  unfold rebuild PipelineTable.compile
  dsimp only
  rw [byRegistry, same]
  rfl

end Proxy
end MapGate
