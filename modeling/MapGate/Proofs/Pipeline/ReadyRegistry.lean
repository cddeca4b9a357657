import MapGate.Proofs.Pipeline.RegistryResolution

/-!
Registries that are ready to serve. No name is found to stand for an instance that is gone, and each
built-in name stands for some instance, since a built-in instance that is destroyed while it is
registered gives way to a fresh one. Every operation of a registry keeps it ready, and a proxy that
resolves by a ready registry gets all that its chains name.
-/
namespace MapGate

namespace FilterChain

theorem isBuiltin_of_mem_guardNames (c : FilterChain) :
    ∀ name ∈ c.guardNames, isBuiltin name = true := by
  unfold guardNames
  cases c.requireSsl <;> cases c.allowSessionCreation <;> decide

theorem names_filterMap {stage? : String → Option Stage} {names : List String}
    (found : ∀ name ∈ names, ∃ s, stage? name = some s ∧ s.name = name) :
    (names.filterMap stage?).map Stage.name = names := by
  induction names with
  | nil => rfl
  | cons name rest ih =>
    obtain ⟨s, answer, named⟩ := found name List.mem_cons_self
    rw [List.filterMap_cons, answer, List.map_cons, named,
      ih fun other member => found other (List.mem_cons_of_mem _ member)]

theorem stagesFrom_guarded {stage? : String → Option Stage}
    (found : ∀ name, isBuiltin name = true → ∃ s, stage? name = some s ∧ s.name = name)
    {c : FilterChain} (enabled : c.disabled = false) :
    ∃ first rest, c.stagesFrom stage? = first ++ rest ∧ first.map Stage.name = c.guardNames := by
  have names := names_filterMap fun name member => found name (c.isBuiltin_of_mem_guardNames name member)
  unfold stagesFrom
  rw [enabled, if_neg Bool.false_ne_true, List.append_assoc, List.filterMap_append]
  exact ⟨_, _, rfl, names⟩

end FilterChain

/-- What holds between a registry, the instances known so far and those that are gone. An instance
is known by one name, and numbers are not given out twice. -/
structure Ready (r : StageRegistry) (known : List Stage) (gone : List StageId) : Prop where
  listed : ∀ s ∈ r.stages, s ∈ known
  single : ∀ s ∈ known, ∀ t ∈ known, s.id = t.id → s = t
  numbered : ∀ s ∈ known, ∀ n, s.id = .builtin n → n < r.nextSerial
  past : ∀ id ∈ gone, id ∈ stageIds known
  live : ∀ name s, r.find? name = some s → s.id ∉ gone
  builtins : ∀ name, isBuiltin name = true → ∃ s, r.find? name = some s

namespace Ready

variable {r : StageRegistry} {known : List Stage} {gone : List StageId}

/-- Instances that became known only meanwhile may be forgotten, but for those in the registry. -/
theorem record {more : List Stage} (ready : Ready r (known ++ more) gone)
    (past : ∀ id ∈ gone, id ∈ stageIds known) : Ready r (known ++ r.stages) gone := by
  have sub : ∀ s ∈ known ++ r.stages, s ∈ known ++ more := by
    intro s member
    rcases List.mem_append.mp member with old | registered
    · exact List.mem_append_left _ old
    · exact ready.listed s registered
  constructor
  case listed => exact fun s member => List.mem_append_right _ member
  case single => exact fun s member t other => ready.single s (sub s member) t (sub t other)
  case numbered => exact fun s member => ready.numbered s (sub s member)
  case past =>
    intro id dead
    rw [stageIds, List.map_append]
    exact List.mem_append_left _ (past id dead)
  case live => exact ready.live
  case builtins => exact ready.builtins

theorem put (ready : Ready r known gone) {stage : Stage} {next : Nat} (later : r.nextSerial ≤ next)
    (same : ∀ t ∈ known, t.id = stage.id → t = stage)
    (number : ∀ n, stage.id = .builtin n → n < next) (alive : stage.id ∉ gone) :
    Ready { (r.register stage).2 with nextSerial := next } (known ++ [stage]) gone where
  listed s member := by
    rcases List.mem_append.mp member with kept | put
    · exact List.mem_append_left _ (ready.listed s (List.mem_filter.mp kept).1)
    · exact List.mem_append_right _ put
  single s member t other equal := by
    simp only [List.mem_append, List.mem_singleton] at member other
    rcases member with old | rfl
    · rcases other with old' | rfl
      · exact ready.single s old t old' equal
      · exact same s old equal
    · rcases other with old | rfl
      · exact (same t old equal.symm).symm
      · rfl
  numbered s member n number' := by
    rcases List.mem_append.mp member with old | put
    · exact Nat.lt_of_lt_of_le (ready.numbered s old n number') later
    · rw [List.mem_singleton.mp put] at number'
      exact number n number'
  past id member := by
    rw [stageIds, List.map_append]
    exact List.mem_append_left _ (ready.past id member)
  live name s found := by
    have answer := (StageRegistry.find?_register r stage name).symm.trans found
    by_cases named : name = stage.name
    · rw [if_pos named] at answer
      rw [← Option.some.inj answer]
      exact alive
    · rw [if_neg named] at answer
      exact ready.live name s answer
  builtins name builtin := by
    have answer := StageRegistry.find?_register r stage name
    by_cases named : name = stage.name
    · exact ⟨stage, answer.trans (if_pos named)⟩
    · obtain ⟨s, found⟩ := ready.builtins name builtin
      exact ⟨s, answer.trans ((if_neg named).trans found)⟩

theorem drop (ready : Ready r known gone) {name : String} (custom : isBuiltin name = false) :
    Ready (r.unregister name).2 known gone where
  listed s member := ready.listed s (List.mem_filter.mp member).1
  single := ready.single
  numbered := ready.numbered
  past := ready.past
  live other s found := by
    rw [StageRegistry.find?_unregister] at found
    by_cases named : other = name
    · simp [named] at found
    · rw [if_neg named] at found
      exact ready.live other s found
  builtins other builtin := by
    have named : other ≠ name := by
      intro same
      rw [same, custom] at builtin
      contradiction
    rw [StageRegistry.find?_unregister, if_neg named]
    exact ready.builtins other builtin

theorem renew (ready : Ready r known gone) (name : String) :
    Ready (r.renew name) (known ++ [⟨.builtin r.nextSerial, name⟩]) gone := by
  -- the next number is that of no instance so far, whether in the registry, known or gone
  have fresh : ∀ t ∈ known, t.id ≠ .builtin r.nextSerial := by
    intro t member equal
    exact Nat.lt_irrefl _ (ready.numbered t member _ equal)
  refine ready.put (Nat.le_succ _) ?_ ?_ ?_
  · intro t member equal
    exact absurd equal (fresh t member)
  · intro n equal
    rw [← StageId.builtin.inj equal]
    exact Nat.lt_succ_self _
  · intro member
    obtain ⟨t, old, equal⟩ := List.mem_map.mp (ready.past _ member)
    exact fresh t old equal

/-- An instance may go that is no longer found under its own name; it never is under others. -/
theorem bury (ready : Ready r known gone) {stage : Stage} (member : stage ∈ known)
    (out : ∀ s, r.find? stage.name = some s → s.id ≠ stage.id) :
    Ready r known (gone ++ [stage.id]) where
  listed := ready.listed
  single := ready.single
  numbered := ready.numbered
  past id dead := by
    rcases List.mem_append.mp dead with old | now
    · exact ready.past id old
    · rw [List.mem_singleton.mp now]
      exact List.mem_map_of_mem member
  live name s found dead := by
    rcases List.mem_append.mp dead with old | now
    · exact ready.live name s found old
    · have equal := List.mem_singleton.mp now
      have listed := ready.listed s (StageRegistry.mem_of_find? found)
      have same := ready.single s listed stage member equal
      rw [← StageRegistry.name_of_find? found, same] at found
      exact out s (same ▸ found) equal
  builtins := ready.builtins

theorem retire (ready : Ready r known gone) {stage : Stage} (member : stage ∈ known) :
    ∃ more, Ready (r.retire stage) (known ++ more) (gone ++ [stage.id]) := by
  have unchanged (out : ∀ s, r.find? stage.name = some s → s.id ≠ stage.id) :
      ∃ more, Ready r (known ++ more) (gone ++ [stage.id]) :=
    ⟨[], by rw [List.append_nil]; exact ready.bury member out⟩
  unfold StageRegistry.retire
  split
  case h_1 current found =>
    split
    case isTrue registered =>
      split
      case isTrue builtin =>
        refine ⟨_, (ready.renew stage.name).bury (List.mem_append_left _ member) ?_⟩
        intro s answer equal
        rw [StageRegistry.find?_renew, if_pos rfl] at answer
        rw [← Option.some.inj answer] at equal
        exact Nat.lt_irrefl _ (ready.numbered stage member _ equal.symm)
      case isFalse custom =>
        refine ⟨[], ?_⟩
        rw [List.append_nil]
        refine (ready.drop (Bool.eq_false_iff.mpr custom)).bury member ?_
        intro s answer
        rw [StageRegistry.find?_unregister, if_pos rfl] at answer
        contradiction
    case isFalse replaced =>
      refine unchanged ?_
      intro s answer
      rw [found] at answer
      rw [← Option.some.inj answer]
      exact replaced
  case h_2 missing =>
    refine unchanged ?_
    intro s answer
    rw [missing] at answer
    contradiction

theorem retireAll (ready : Ready r known gone) {stages : List Stage}
    (members : ∀ s ∈ stages, s ∈ known) :
    ∃ more, Ready (stages.foldl (fun r s => r.retire s) r) (known ++ more)
      (gone ++ stageIds stages) := by
  induction stages generalizing r known gone with
  | nil =>
    refine ⟨[], ?_⟩
    simpa [stageIds] using ready
  | cons stage rest ih =>
    obtain ⟨more, first⟩ := ready.retire (members stage List.mem_cons_self)
    have later : ∀ s ∈ rest, s ∈ known ++ more := by
      intro s member
      exact List.mem_append_left _ (members s (List.mem_cons_of_mem _ member))
    obtain ⟨others, last⟩ := ih first later
    refine ⟨more ++ others, ?_⟩
    rw [← List.append_assoc]
    simpa [stageIds] using last

theorem withBuiltins : Ready .withBuiltins StageRegistry.withBuiltins.stages [] := by
  constructor
  case listed => exact fun s member => member
  case single => decide
  case numbered =>
    intro s member n number
    have three : s ∈ [⟨.builtin 0, "ssl"⟩, ⟨.builtin 1, "sessionContext"⟩,
      ⟨.builtin 2, "noSessionContext"⟩] := member
    show n < 3
    simp only [List.mem_cons, List.not_mem_nil, or_false] at three
    rcases three with rfl | rfl | rfl <;> cases number <;> decide
  case past => simp
  case live => simp
  case builtins =>
    intro name builtin
    simp only [isBuiltin, Bool.or_eq_true, beq_iff_eq] at builtin
    rcases builtin with (rfl | rfl) | rfl <;> exact ⟨_, rfl⟩

/-- Nothing that the registry finds is refused. -/
theorem liveFind?_eq {dead : List Stage} (ready : Ready r known (stageIds dead)) :
    r.liveFind? dead = r.find? := by
  funext name
  unfold StageRegistry.liveFind?
  cases found : r.find? name with
  | none => rfl
  | some s => exact Option.filter_some_pos (decide_eq_true (ready.live name s found))

/-- A rebuild is a function of what the registry finds. -/
theorem rebuild {p : Proxy StageRegistry} (resolver : p.resolver = StageRegistry.resolver)
    (ready : Ready p.resolverState known (stageIds p.retired)) (chains : List FilterChain) :
    (p.rebuild chains).2.table.chains = chains.map (·.compiledFrom p.resolverState.find?) ∧
      (p.rebuild chains).2.resolverState =
        (p.rebuild chains).1.foldl (fun r s => r.retire s) p.resolverState := by
  rw [← ready.liveFind?_eq]
  exact ⟨p.chains_rebuild resolver chains, p.registry_rebuild resolver chains⟩

theorem known_of_mem_stagesFrom (ready : Ready r known gone) {c : FilterChain} {s : Stage}
    (member : s ∈ c.stagesFrom r.find?) : s ∈ known := by
  rw [FilterChain.stagesFrom_eq] at member
  obtain ⟨name, _, found⟩ := List.mem_filterMap.mp member
  exact ready.listed s (StageRegistry.mem_of_find? found)

theorem guards (ready : Ready r known gone) {c : FilterChain} (enabled : c.disabled = false) :
    ∃ first rest, c.stagesFrom r.find? = first ++ rest ∧ first.map Stage.name = c.guardNames := by
  refine FilterChain.stagesFrom_guarded ?_ enabled
  intro name builtin
  obtain ⟨s, found⟩ := ready.builtins name builtin
  exact ⟨s, found, StageRegistry.name_of_find? found⟩

end Ready
end MapGate
