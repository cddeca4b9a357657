import MapGate.Pipeline.Table

/-!
The stage instances of a pipeline table. An instance is known by its identity, whatever name it
goes by. The list of unique stages holds every instance of the table once, ordered by where the
instances are used first, and a table compiled with some instances refused holds none of them,
whatever the resolver answers.
-/
namespace MapGate

def stageIds (stages : List Stage) : List StageId := stages.map Stage.id

/-- A stage of a list that no stage of its identity stands before. -/
def LeadsIn (stages : List Stage) (s : Stage) : Prop :=
  ∃ before after, stages = before ++ s :: after ∧ s.id ∉ stageIds before

/-- The first instance stands in a beginning of the list in which the second one does not. -/
def UsedSooner (stages : List Stage) (a b : Stage) : Prop :=
  ∃ before after, stages = before ++ after ∧ a.id ∈ stageIds before ∧ b.id ∉ stageIds before

variable {first s a b : Stage} {rest stages : List Stage}

theorem leadsIn_cons_iff :
    LeadsIn (first :: rest) s ↔ s = first ∨ s.id ≠ first.id ∧ LeadsIn rest s := by
  constructor
  · rintro ⟨before, after, split, new⟩
    rcases List.cons_eq_append_iff.mp split with ⟨rfl, same⟩ | ⟨others, rfl, later⟩
    · exact .inl (List.cons.inj same).1
    · obtain ⟨differs, new⟩ := not_or.mp (mt List.mem_cons.mpr new)
      exact .inr ⟨differs, others, after, later, new⟩
  · rintro (rfl | ⟨differs, before, after, rfl, new⟩)
    · exact ⟨[], rest, rfl, List.not_mem_nil⟩
    · exact ⟨first :: before, after, rfl, mt List.mem_cons.mp (not_or.mpr ⟨differs, new⟩)⟩

theorem mem_stageIds_iff {id : StageId} :
    id ∈ stageIds stages ↔ ∃ s, LeadsIn stages s ∧ s.id = id := by
  constructor
  · intro member
    induction stages with
    | nil => cases member
    | cons first rest ih =>
      by_cases same : id = first.id
      · exact ⟨first, leadsIn_cons_iff.mpr (.inl rfl), same.symm⟩
      · obtain ⟨s, leads, rfl⟩ := ih ((List.mem_cons.mp member).resolve_left same)
        exact ⟨s, leadsIn_cons_iff.mpr (.inr ⟨same, leads⟩), rfl⟩
  · rintro ⟨s, ⟨before, after, rfl, _⟩, rfl⟩
    exact List.mem_map_of_mem (List.mem_append_right _ List.mem_cons_self)

theorem usedSooner_head (differs : b.id ≠ first.id) : UsedSooner (first :: rest) first b :=
  ⟨[first], rest, rfl, List.mem_cons_self, mt List.mem_singleton.mp differs⟩

theorem UsedSooner.cons (sooner : UsedSooner rest a b) (differs : b.id ≠ first.id) :
    UsedSooner (first :: rest) a b := by
  obtain ⟨before, after, rfl, used, unused⟩ := sooner
  exact ⟨first :: before, after, rfl, List.mem_cons_of_mem _ used,
    mt List.mem_cons.mp (not_or.mpr ⟨differs, unused⟩)⟩

namespace PipelineTable

def ids (t : PipelineTable) : List StageId := stageIds t.allStages

theorem containsStage_iff (t : PipelineTable) (stage : Stage) :
    t.containsStage stage = true ↔ stage.id ∈ t.ids := by
  simp [containsStage, ids, stageIds]

theorem mem_distinct_iff (seen : List StageId) :
    s ∈ distinct seen stages ↔ s.id ∉ seen ∧ LeadsIn stages s := by
  induction stages generalizing seen with
  | nil => simp [distinct, LeadsIn]
  | cons first rest ih =>
    rw [leadsIn_cons_iff]
    by_cases known : first.id ∈ seen
    · rw [distinct, if_pos (List.contains_iff_mem.mpr known), ih]
      constructor
      · rintro ⟨new, leads⟩
        exact ⟨new, .inr ⟨fun same => new (same ▸ known), leads⟩⟩
      · rintro ⟨new, rfl | ⟨_, leads⟩⟩
        · exact absurd known new
        · exact ⟨new, leads⟩
    · rw [distinct, if_neg (mt List.contains_iff_mem.mp known), List.mem_cons, ih]
      constructor
      · rintro (rfl | ⟨new, leads⟩)
        · exact ⟨known, .inl rfl⟩
        · obtain ⟨differs, new⟩ := not_or.mp (mt List.mem_cons.mpr new)
          exact ⟨new, .inr ⟨differs, leads⟩⟩
      · rintro ⟨new, rfl | ⟨differs, leads⟩⟩
        · exact .inl rfl
        · exact .inr ⟨mt List.mem_cons.mp (not_or.mpr ⟨differs, new⟩), leads⟩

theorem distinct_ordered (seen : List StageId) (stages : List Stage) :
    (distinct seen stages).Pairwise (UsedSooner stages) := by
  induction stages generalizing seen with
  | nil => exact List.Pairwise.nil
  | cons first rest ih =>
    -- what is kept of the rest is not the first instance, which has been seen by then
    have behind {known : List StageId} (met : first.id ∈ known) :
        (distinct known rest).Pairwise (UsedSooner (first :: rest)) := by
      refine (ih known).imp_of_mem ?_
      intro a b _ kept sooner
      have new := ((mem_distinct_iff known).mp kept).1
      exact sooner.cons fun same => new (same ▸ met)
    unfold distinct
    split
    case isTrue known => exact behind (List.contains_iff_mem.mp known)
    case isFalse =>
      refine List.pairwise_cons.mpr ⟨?_, behind List.mem_cons_self⟩
      intro b kept
      have new := ((mem_distinct_iff _).mp kept).1
      exact usedSooner_head fun same => new (List.mem_cons.mpr (.inl same))

theorem mem_ids_distinct (id : StageId) (seen : List StageId) (stages : List Stage) :
    id ∈ stageIds (distinct seen stages) ↔ id ∈ stageIds stages ∧ id ∉ seen := by
  constructor
  · intro member
    obtain ⟨s, kept, rfl⟩ := List.mem_map.mp member
    obtain ⟨new, leads⟩ := (mem_distinct_iff seen).mp kept
    exact ⟨mem_stageIds_iff.mpr ⟨s, leads, rfl⟩, new⟩
  · rintro ⟨member, new⟩
    obtain ⟨s, leads, rfl⟩ := mem_stageIds_iff.mp member
    exact List.mem_map_of_mem ((mem_distinct_iff seen).mpr ⟨new, leads⟩)

theorem ids_distinct_nodup (seen : List StageId) (stages : List Stage) :
    (stageIds (distinct seen stages)).Nodup := by
  refine List.pairwise_map.mpr ((distinct_ordered seen stages).imp ?_)
  rintro a b ⟨before, after, _, used, unused⟩ same
  exact unused (same ▸ used)

theorem distinct_sublist (seen : List StageId) (stages : List Stage) :
    (distinct seen stages).Sublist stages := by
  induction stages generalizing seen with
  | nil => exact List.Sublist.refl _
  | cons s rest ih =>
    unfold distinct
    split
    · exact (ih seen).cons s
    · exact (ih _).cons_cons s

theorem mem_ids_uniqueStages (id : StageId) (t : PipelineTable) :
    id ∈ stageIds t.uniqueStages ↔ id ∈ t.ids := by
  simp [uniqueStages, mem_ids_distinct, ids]

end PipelineTable

namespace Resolver

variable {σ : Type}

theorem resolve_without (r : Resolver σ) (refused : List Stage) (name : String) (s : σ) :
    ∀ stage ∈ ((r.without refused).resolve name s).1, stage.id ∉ stageIds refused := by
  intro stage found
  unfold without at found
  dsimp only at found
  split at found
  · rename_i answer _ _
    split at found
    · contradiction
    · rename_i live
      obtain rfl : answer = stage := by simpa using found
      simpa [stageIds] using live
  · contradiction

theorem resolveAll_without (r : Resolver σ) (refused : List Stage) (names : List String) (s : σ) :
    ∀ stage ∈ ((r.without refused).resolveAll names s).1, stage.id ∉ stageIds refused := by
  induction names generalizing s with
  | nil => simp [resolveAll]
  | cons name rest ih =>
    intro stage member
    rcases List.mem_append.mp member with first | later
    · exact resolve_without r refused name s stage (Option.mem_toList.mp first)
    · exact ih _ stage later

end Resolver

namespace PipelineTable

variable {σ : Type}

theorem compileChains_without (r : Resolver σ) (refused : List Stage) (chains : List FilterChain)
    (s : σ) : ∀ chain ∈ (compileChains (r.without refused) chains s).1,
      ∀ stage ∈ chain.stages, stage.id ∉ stageIds refused := by
  induction chains generalizing s with
  | nil => simp [compileChains]
  | cons c rest ih =>
    intro chain member
    rcases List.mem_cons.mp member with first | later
    · subst first
      exact Resolver.resolveAll_without r refused c.stageNames s
    · exact ih _ chain later

theorem compile_without (r : Resolver σ) (refused : List Stage) (chains : List FilterChain) (s : σ) :
    ∀ id ∈ (compile (r.without refused) chains s).1.ids, id ∉ stageIds refused := by
  intro id member
  obtain ⟨stage, used, rfl⟩ := List.mem_map.mp member
  obtain ⟨chain, listed, inside⟩ := List.mem_flatMap.mp used
  exact compileChains_without r refused chains s chain listed stage inside

end PipelineTable
end MapGate
