import MapGate.Pipeline.Proxy
import MapGate.Proofs.Pipeline.TableStages

/-!
The life of a stage instance behind a proxy. A history records, next to the proxy, every table it
has published and every instance it has destroyed. Over any history the instances ever published
are those of the current table and the retired ones, each on one side only, a retired instance was
destroyed once, and no table published afterwards has it.
-/
namespace MapGate

/-- A rebuild, or a change that others make to what the resolver answers. -/
inductive ProxyEvent (σ : Type) where
  | rebuild (chains : List FilterChain)
  | resolverChange (change : σ → σ)

/-- A proxy with the tables it has published and the instances it has destroyed, both in order. -/
structure ProxyHistory (σ : Type) where
  proxy : Proxy σ
  published : List PipelineTable
  destroyed : List Stage

variable {σ : Type}

namespace Proxy

theorem destroyed_iff (p : Proxy σ) (chains : List FilterChain) (id : StageId) :
    id ∈ stageIds (p.rebuild chains).1 ↔
      id ∈ p.table.ids ∧ id ∉ (p.rebuild chains).2.table.ids := by
  have dropped_iff (stage : Stage) :
      (!(p.rebuild chains).2.table.containsStage stage) = true ↔
        stage.id ∉ (p.rebuild chains).2.table.ids := by
    rw [Bool.not_eq_true', Bool.eq_false_iff, Ne, PipelineTable.containsStage_iff]
  constructor
  · intro member
    obtain ⟨stage, gone, rfl⟩ := List.mem_map.mp member
    obtain ⟨listed, dropped⟩ := List.mem_filter.mp gone
    have unique : stage.id ∈ stageIds p.table.uniqueStages := List.mem_map_of_mem listed
    have old := (PipelineTable.mem_ids_uniqueStages stage.id p.table).mp unique
    exact ⟨old, (dropped_iff stage).mp dropped⟩
  · rintro ⟨old, missing⟩
    obtain ⟨stage, listed, rfl⟩ :=
      List.mem_map.mp ((PipelineTable.mem_ids_uniqueStages id p.table).mpr old)
    exact List.mem_map_of_mem (List.mem_filter.mpr ⟨listed, (dropped_iff stage).mpr missing⟩)

theorem destroyed_nodup (p : Proxy σ) (chains : List FilterChain) :
    (stageIds (p.rebuild chains).1).Nodup := by
  have once := PipelineTable.ids_distinct_nodup [] p.table.allStages
  exact once.sublist (List.Sublist.map Stage.id List.filter_sublist)

theorem rebuild_avoids_retired (p : Proxy σ) (chains : List FilterChain) :
    ∀ id ∈ (p.rebuild chains).2.table.ids, id ∉ stageIds p.retired :=
  PipelineTable.compile_without p.resolver p.retired chains p.resolverState

theorem retired_rebuild (p : Proxy σ) (chains : List FilterChain) :
    stageIds (p.rebuild chains).2.retired =
      stageIds p.retired ++ stageIds (p.rebuild chains).1 := by
  simp [rebuild, stageIds]

end Proxy

namespace ProxyHistory

def start (r : Resolver σ) (s : σ) (cache : Option AuthCache) : ProxyHistory σ where
  proxy := { resolver := r, resolverState := s, cache }
  published := [.empty]
  destroyed := []

def step (h : ProxyHistory σ) : ProxyEvent σ → ProxyHistory σ
  | .rebuild chains => {
      proxy := (h.proxy.rebuild chains).2
      published := h.published ++ [(h.proxy.rebuild chains).2.table]
      destroyed := h.destroyed ++ (h.proxy.rebuild chains).1 }
  | .resolverChange change =>
    { h with proxy := { h.proxy with resolverState := change h.proxy.resolverState } }

def run (h : ProxyHistory σ) (events : List (ProxyEvent σ)) : ProxyHistory σ :=
  events.foldl step h

/-- The tables that some further events publish. -/
def publishedBy (h : ProxyHistory σ) (later : List (ProxyEvent σ)) : List PipelineTable :=
  (h.run later).published.drop h.published.length

def WasPublished (h : ProxyHistory σ) (id : StageId) : Prop := ∃ t ∈ h.published, id ∈ t.ids

def IsRetired (h : ProxyHistory σ) (id : StageId) : Prop := id ∈ stageIds h.proxy.retired

instance (h : ProxyHistory σ) (id : StageId) : Decidable (h.IsRetired id) :=
  inferInstanceAs (Decidable (id ∈ stageIds h.proxy.retired))

def timesDestroyed (h : ProxyHistory σ) (id : StageId) : Nat := (stageIds h.destroyed).count id

/-- What holds between the tables of a history, the retired instances and the destroyed ones. -/
structure Balanced (h : ProxyHistory σ) : Prop where
  current : h.published.getLast? = some h.proxy.table
  log : h.destroyed = h.proxy.retired
  once : (stageIds h.proxy.retired).Nodup
  apart : ∀ id, h.IsRetired id → id ∉ h.proxy.table.ids
  covered : ∀ id, h.WasPublished id ↔ id ∈ h.proxy.table.ids ∨ h.IsRetired id

theorem balanced_start (r : Resolver σ) (s : σ) (cache : Option AuthCache) :
    Balanced (start r s cache) where
  current := rfl
  log := rfl
  once := List.nodup_nil
  apart _ retired := by simp [IsRetired, start, stageIds] at retired
  covered id := by simp [WasPublished, IsRetired, start, stageIds]

theorem isRetired_rebuild (h : ProxyHistory σ) (chains : List FilterChain) (id : StageId) :
    (h.step (.rebuild chains)).IsRetired id ↔
      h.IsRetired id ∨
        (id ∈ h.proxy.table.ids ∧ id ∉ (h.step (.rebuild chains)).proxy.table.ids) := by
  unfold IsRetired step
  dsimp only
  rw [Proxy.retired_rebuild, List.mem_append, Proxy.destroyed_iff]

theorem wasPublished_rebuild (h : ProxyHistory σ) (chains : List FilterChain) (id : StageId) :
    (h.step (.rebuild chains)).WasPublished id ↔
      h.WasPublished id ∨ id ∈ (h.step (.rebuild chains)).proxy.table.ids := by
  simp only [WasPublished, step, List.mem_append, List.mem_singleton]
  constructor
  · rintro ⟨t, old | rfl, member⟩
    · exact .inl ⟨t, old, member⟩
    · exact .inr member
  · rintro (⟨t, old, member⟩ | member)
    · exact ⟨t, .inl old, member⟩
    · exact ⟨_, .inr rfl, member⟩

theorem balanced_rebuild {h : ProxyHistory σ} (before : Balanced h) (chains : List FilterChain) :
    Balanced (h.step (.rebuild chains)) where
  current := by simp [step]
  log := by simp [step, Proxy.rebuild, before.log]
  once := by
    -- an instance destroyed now was in the old table, which had no retired instance
    have fresh : ∀ id ∈ stageIds h.proxy.retired,
        ∀ gone ∈ stageIds (h.proxy.rebuild chains).1, id ≠ gone := by
      rintro id retired _ gone rfl
      exact before.apart id retired ((Proxy.destroyed_iff h.proxy chains id).mp gone).1
    unfold step
    dsimp only
    rw [Proxy.retired_rebuild, List.nodup_append]
    exact ⟨before.once, Proxy.destroyed_nodup h.proxy chains, fresh⟩
  apart id retired := by
    rcases (isRetired_rebuild h chains id).mp retired with old | ⟨_, missing⟩
    · exact fun kept => Proxy.rebuild_avoids_retired h.proxy chains id kept old
    · exact missing
  covered id := by
    rw [wasPublished_rebuild, isRetired_rebuild, before.covered]
    constructor
    · rintro ((old | retired) | new)
      · by_cases kept : id ∈ (h.step (.rebuild chains)).proxy.table.ids
        · exact .inl kept
        · exact .inr (.inr ⟨old, kept⟩)
      · exact .inr (.inl retired)
      · exact .inl new
    · rintro (new | retired | ⟨old, _⟩)
      · exact .inr new
      · exact .inl (.inr retired)
      · exact .inl (.inl old)

theorem balanced_step {h : ProxyHistory σ} (before : Balanced h) (event : ProxyEvent σ) :
    Balanced (h.step event) := by
  cases event with
  | rebuild chains => exact balanced_rebuild before chains
  | resolverChange change =>
    exact ⟨before.current, before.log, before.once, before.apart, before.covered⟩

theorem balanced_run {h : ProxyHistory σ} (before : Balanced h) (events : List (ProxyEvent σ)) :
    Balanced (h.run events) := by
  induction events generalizing h with
  | nil => exact before
  | cons event rest ih => exact ih (balanced_step before event)

theorem Balanced.timesDestroyed_eq {h : ProxyHistory σ} (balanced : Balanced h) (id : StageId) :
    h.timesDestroyed id = if h.IsRetired id then 1 else 0 := by
  unfold timesDestroyed
  rw [balanced.log, balanced.once.count]
  rfl

theorem isRetired_step {h : ProxyHistory σ} {id : StageId} (retired : h.IsRetired id)
    (event : ProxyEvent σ) : (h.step event).IsRetired id := by
  cases event with
  | rebuild chains => exact (isRetired_rebuild h chains id).mpr (.inl retired)
  | resolverChange change => exact retired

theorem published_step (h : ProxyHistory σ) (event : ProxyEvent σ) :
    ∃ new, (h.step event).published = h.published ++ new ∧
      ∀ t ∈ new, ∀ id, h.IsRetired id → id ∉ t.ids := by
  cases event with
  | rebuild chains =>
    refine ⟨[(h.proxy.rebuild chains).2.table], rfl, ?_⟩
    intro t member id retired kept
    obtain rfl := List.mem_singleton.mp member
    exact Proxy.rebuild_avoids_retired h.proxy chains id kept retired
  | resolverChange change => exact ⟨[], by simp [step], by simp⟩

theorem published_run (h : ProxyHistory σ) (later : List (ProxyEvent σ)) :
    ∃ new, (h.run later).published = h.published ++ new ∧
      ∀ t ∈ new, ∀ id, h.IsRetired id → id ∉ t.ids := by
  induction later generalizing h with
  | nil => exact ⟨[], by simp [run], by simp⟩
  | cons event rest ih =>
    obtain ⟨first, added, avoids⟩ := published_step h event
    obtain ⟨others, appended, avoid⟩ := ih (h.step event)
    refine ⟨first ++ others, ?_, ?_⟩
    · rw [← List.append_assoc, ← added]
      exact appended
    · intro t member id retired
      rcases List.mem_append.mp member with now | after
      · exact avoids t now id retired
      · exact avoid t after id (isRetired_step retired event)

theorem not_mem_publishedBy {h : ProxyHistory σ} {id : StageId} (retired : h.IsRetired id)
    (later : List (ProxyEvent σ)) : ∀ t ∈ h.publishedBy later, id ∉ t.ids := by
  obtain ⟨new, appended, avoids⟩ := published_run h later
  intro t member
  unfold publishedBy at member
  rw [appended, List.drop_left] at member
  exact avoids t member id retired

/-- Whatever the resolver answers and however often the table is rebuilt, the instances ever
published split into those of the current table and the retired ones, each retired instance was
destroyed exactly once and no other one ever, and none of them is published again. -/
theorem instances_destroyed_once (r : Resolver σ) (s : σ) (cache : Option AuthCache)
    (events : List (ProxyEvent σ)) :
    let h := (start r s cache).run events
    (∀ id, h.WasPublished id ↔ id ∈ h.proxy.table.ids ∨ h.IsRetired id) ∧
    (∀ id, h.IsRetired id → id ∉ h.proxy.table.ids) ∧
    (∀ id, h.timesDestroyed id = if h.IsRetired id then 1 else 0) ∧
    (∀ id, h.IsRetired id → ∀ later, ∀ t ∈ h.publishedBy later, id ∉ t.ids) := by
  intro h
  have balanced : Balanced h := balanced_run (balanced_start r s cache) events
  refine ⟨balanced.covered, balanced.apart, balanced.timesDestroyed_eq, ?_⟩
  intro id retired later
  exact not_mem_publishedBy retired later

end ProxyHistory
end MapGate
