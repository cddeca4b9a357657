import Mathlib.Data.List.Nodup
import MapGate.Proofs.Pipeline.TableStages

/-!
The order of the stage instances of a table. A stage stands at a place, in the chain of one number
and there under another number, and the places of a table are ordered like its chains. The list of
unique stages is the one list that has each instance once, with the places where the instances first
stand in order. So it depends on identities alone: instances of one name are listed apart, and an
instance that serves several chains, or one of them twice, stands in the list once.
-/
namespace MapGate

/-- Where a stage of a table stands: the number of its chain, and its own number in that chain. -/
structure StagePlace where
  chain : Nat
  index : Nat
deriving DecidableEq, Repr

/-- In an earlier chain, or earlier in the same one. -/
def StagePlace.Before (p q : StagePlace) : Prop :=
  p.chain < q.chain ∨ p.chain = q.chain ∧ p.index < q.index

theorem StagePlace.Before.asymm {p q : StagePlace} (before : p.Before q) : ¬ q.Before p := by
  unfold StagePlace.Before at *
  omega

theorem StagePlace.Before.of_not_before {p q r : StagePlace} (before : p.Before r)
    (later : ¬ p.Before q) : q.Before r := by
  unfold StagePlace.Before at *
  omega

namespace PipelineTable

def stageAt? (t : PipelineTable) (p : StagePlace) : Option Stage :=
  t.chains[p.chain]?.bind fun c => c.stages[p.index]?

/-- A stage and the first of the places where its instance stands. -/
structure FirstUse (t : PipelineTable) (p : StagePlace) (s : Stage) : Prop where
  here : t.stageAt? p = some s
  first : ∀ q other, t.stageAt? q = some other → q.Before p → other.id ≠ s.id

/-- Every instance that some chain has, once, in the order of first use. -/
structure ListsFirstUses (t : PipelineTable) (stages : List Stage) : Prop where
  once : (stageIds stages).Nodup
  used : ∀ id, id ∈ stageIds stages ↔ ∃ c ∈ t.chains, id ∈ stageIds c.stages
  first : ∀ s, s ∈ stages ↔ ∃ p, t.FirstUse p s
  order : stages.Pairwise fun a b => ∀ p q, t.FirstUse p a → t.FirstUse q b → p.Before q

/-- All stages with their places, in the order of the chains. -/
def placed (t : PipelineTable) : List (StagePlace × Stage) :=
  t.chains.zipIdx.flatMap fun c => c.1.stages.zipIdx.map fun s => (⟨c.2, s.2⟩, s.1)

variable {t : PipelineTable} {p q : StagePlace} {s a b : Stage}

theorem placed_stages (t : PipelineTable) : t.placed.map Prod.snd = t.allStages := by
  have chain (c : CompiledChain × Nat) :
      (c.1.stages.zipIdx.map fun s => ((⟨c.2, s.2⟩ : StagePlace), s.1)).map Prod.snd =
        c.1.stages := by
    rw [List.map_map]
    exact List.zipIdx_map_fst 0 c.1.stages
  rw [placed, List.map_flatMap]
  simp only [chain]
  rw [← List.flatMap_map Prod.fst CompiledChain.stages, List.zipIdx_map_fst, allStages]

theorem mem_placed_iff : (p, s) ∈ t.placed ↔ t.stageAt? p = some s := by
  constructor
  · intro member
    obtain ⟨⟨c, i⟩, chain, inside⟩ := List.mem_flatMap.mp member
    obtain ⟨⟨stage, k⟩, index, same⟩ := List.mem_map.mp inside
    cases same
    exact Option.bind_eq_some_iff.mpr
      ⟨c, List.mk_mem_zipIdx_iff_getElem?.mp chain, List.mk_mem_zipIdx_iff_getElem?.mp index⟩
  · intro here
    obtain ⟨c, chain, index⟩ := Option.bind_eq_some_iff.mp here
    refine List.mem_flatMap.mpr ⟨(c, p.chain), List.mk_mem_zipIdx_iff_getElem?.mpr chain, ?_⟩
    exact List.mem_map.mpr ⟨(s, p.index), List.mk_mem_zipIdx_iff_getElem?.mpr index, rfl⟩

theorem zipIdx_ordered {α : Type} (xs : List α) : xs.zipIdx.Pairwise fun x y => x.2 < y.2 := by
  have numbers : (xs.zipIdx.map Prod.snd).Pairwise (· < ·) := by
    rw [List.zipIdx_map_snd]
    exact List.pairwise_lt_range' 1
  exact List.pairwise_map.mp numbers

theorem placed_ordered (t : PipelineTable) : t.placed.Pairwise fun u v => u.1.Before v.1 := by
  refine List.pairwise_flatMap.mpr ⟨?_, ?_⟩
  · intro c _
    refine List.pairwise_map.mpr ((zipIdx_ordered c.1.stages).imp ?_)
    exact fun less => .inr ⟨rfl, less⟩
  · refine (zipIdx_ordered t.chains).imp ?_
    intro c d less u inside v within
    obtain ⟨_, _, rfl⟩ := List.mem_map.mp inside
    obtain ⟨_, _, rfl⟩ := List.mem_map.mp within
    exact .inl less

/-- What is listed before a place is what stands at an earlier one. -/
theorem mem_early_iff {early late : List (StagePlace × Stage)} {other : Stage}
    (split : t.placed = early ++ (p, s) :: late) :
    (q, other) ∈ early ↔ t.stageAt? q = some other ∧ q.Before p := by
  have ordered := placed_ordered t
  rw [split, List.pairwise_append] at ordered
  obtain ⟨_, behind, ahead⟩ := ordered
  rw [← mem_placed_iff, split]
  constructor
  · intro listed
    exact ⟨List.mem_append_left _ listed, ahead _ listed _ List.mem_cons_self⟩
  · rintro ⟨member, sooner⟩
    refine (List.mem_append.mp member).resolve_right fun after => ?_
    rcases List.mem_cons.mp after with same | later
    · cases same
      exact sooner.asymm sooner
    · exact sooner.asymm (List.rel_of_pairwise_cons behind later)

theorem mem_ids_iff_placed {id : StageId} {uses : List (StagePlace × Stage)} :
    id ∈ stageIds (uses.map Prod.snd) ↔ ∃ q other, (q, other) ∈ uses ∧ other.id = id := by
  simp [stageIds]

theorem exists_firstUse_iff : (∃ p, t.FirstUse p s) ↔ LeadsIn t.allStages s := by
  rw [← placed_stages]
  constructor
  · rintro ⟨p, here, first⟩
    obtain ⟨early, late, split⟩ := List.append_of_mem (mem_placed_iff.mpr here)
    refine ⟨early.map Prod.snd, late.map Prod.snd, by simp [split], ?_⟩
    intro again
    obtain ⟨q, other, member, same⟩ := mem_ids_iff_placed.mp again
    obtain ⟨standing, sooner⟩ := (mem_early_iff split).mp member
    exact first q other standing sooner same
  · rintro ⟨before, after, whole, new⟩
    obtain ⟨early, rest, split, rfl, tail⟩ := List.map_eq_append_iff.mp whole
    obtain ⟨⟨p, s⟩, late, rfl, rfl, rfl⟩ := List.map_eq_cons_iff.mp tail
    refine ⟨p, mem_placed_iff.mp (by simp [split]), ?_⟩
    intro q other standing sooner same
    have listed := (mem_early_iff split).mpr ⟨standing, sooner⟩
    exact new (mem_ids_iff_placed.mpr ⟨q, other, listed, same⟩)

theorem before_of_usedSooner (sooner : UsedSooner t.allStages a b) (one : t.FirstUse p a)
    (other : t.FirstUse q b) : p.Before q := by
  obtain ⟨before, after, whole, used, unused⟩ := sooner
  rw [← placed_stages] at whole
  obtain ⟨early, late, split, rfl, rfl⟩ := List.map_eq_append_iff.mp whole
  obtain ⟨r, user, member, same⟩ := mem_ids_iff_placed.mp used
  have standing : t.stageAt? r = some user :=
    mem_placed_iff.mp (split ▸ List.mem_append_left late member)
  have behind : (q, b) ∈ late := by
    have placed := split ▸ mem_placed_iff.mpr other.here
    refine (List.mem_append.mp placed).resolve_left fun listed => unused ?_
    exact mem_ids_iff_placed.mpr ⟨q, b, listed, rfl⟩
  have ordered : r.Before q :=
    (List.pairwise_append.mp (split ▸ placed_ordered t)).2.2 _ member _ behind
  -- the first use of the one instance is where it stands there, or before that
  exact ordered.of_not_before fun sooner => one.first r user standing sooner same

theorem listsFirstUses_uniqueStages (t : PipelineTable) : t.ListsFirstUses t.uniqueStages where
  once := ids_distinct_nodup [] t.allStages
  used id := by
    rw [mem_ids_uniqueStages, ids, allStages, stageIds, List.map_flatMap, List.mem_flatMap]
    rfl
  first s := by
    rw [uniqueStages, mem_distinct_iff, exists_firstUse_iff]
    simp
  order := (distinct_ordered [] t.allStages).imp fun sooner _ _ => before_of_usedSooner sooner

theorem ListsFirstUses.eq {stages others : List Stage} (one : t.ListsFirstUses stages)
    (other : t.ListsFirstUses others) : stages = others := by
  have members (s : Stage) : s ∈ stages ↔ s ∈ others := by rw [one.first, other.first]
  have same : stages.Perm others :=
    (List.perm_ext_iff_of_nodup one.once.of_map other.once.of_map).mpr members
  refine List.Perm.eq_of_pairwise ?_ one.order other.order same
  intro a b listed member ahead behind
  obtain ⟨p, firstA⟩ := (one.first a).mp listed
  obtain ⟨q, firstB⟩ := (other.first b).mp member
  exact absurd (behind q p firstB firstA) (ahead p q firstA firstB).asymm

/-- The unique stages of a table are the one list that has every instance of its chains once, in the
order of first use, and the table contains just the instances of that list. -/
theorem uniqueStages_inFirstUse (t : PipelineTable) :
    (∀ stages, t.ListsFirstUses stages ↔ stages = t.uniqueStages) ∧
      ∀ s, t.containsStage s = true ↔ s.id ∈ stageIds t.uniqueStages := by
  constructor
  · intro stages
    constructor
    · exact fun listed => listed.eq (listsFirstUses_uniqueStages t)
    · rintro rfl
      exact listsFirstUses_uniqueStages t
  · intro s
    rw [containsStage_iff, mem_ids_uniqueStages]

/-- Two instances have one name, one serves both chains, and one stands in a chain twice. -/
example :
    let tls : Stage := ⟨.builtin 0, "ssl"⟩
    let audit : Stage := ⟨.given "audit", "log"⟩
    let trace : Stage := ⟨.given "trace", "log"⟩
    let t : PipelineTable :=
      ⟨[⟨"web", [], none, [tls, trace, tls]⟩, ⟨"rest", [], none, [audit, trace]⟩]⟩
    t.uniqueStages = [tls, trace, audit] ∧ t.containsStage ⟨.given "debug", "log"⟩ = false := by
  decide

end PipelineTable
end MapGate
