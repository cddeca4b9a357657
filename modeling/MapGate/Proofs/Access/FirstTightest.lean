import MapGate.Proofs.Access.Restrictiveness

/-!
The choice among several policies. Restrictiveness is a total preorder: policies are compared as
the numbers that their level and mode come to. The policy chosen from a list is the first of the
most restrictive ones. So a list may be taken in parts, and its order matters only among policies of
one level and mode.
-/
namespace MapGate.Policy

/-- Level and mode as one number, by which policies are compared. -/
def grade (p : Policy) : Nat := 4 * p.level.rank + modeRank p.mode?

theorem modeRank_lt (mode : Option Mode) : modeRank mode < 4 := by
  cases mode with
  | none => decide
  | some m => cases m <;> decide

theorem compareRestriction_eq (p q : Policy) :
    compareRestriction p q = compare p.grade q.grade := by
  have first := modeRank_lt p.mode?
  have second := modeRank_lt q.mode?
  rw [compareRestriction]
  rcases Nat.lt_trichotomy p.level.rank q.level.rank with less | equal | more
  · have graded : p.grade < q.grade := by unfold grade; omega
    rw [Nat.compare_eq_lt.mpr less, Nat.compare_eq_lt.mpr graded]
    rfl
  · have level : compare p.level.rank q.level.rank = .eq := Nat.compare_eq_eq.mpr equal
    rw [level, Ordering.eq_then]
    rcases Nat.lt_trichotomy (modeRank p.mode?) (modeRank q.mode?) with less | same | more
    · have graded : p.grade < q.grade := by unfold grade; omega
      rw [Nat.compare_eq_lt.mpr less, Nat.compare_eq_lt.mpr graded]
    · have graded : p.grade = q.grade := by unfold grade; omega
      rw [Nat.compare_eq_eq.mpr same, Nat.compare_eq_eq.mpr graded]
    · have graded : q.grade < p.grade := by unfold grade; omega
      rw [Nat.compare_eq_gt.mpr more, Nat.compare_eq_gt.mpr graded]
  · have graded : q.grade < p.grade := by unfold grade; omega
    rw [Nat.compare_eq_gt.mpr more, Nat.compare_eq_gt.mpr graded]
    rfl

theorem stricter_iff {p q : Policy} : compareRestriction p q = .lt ↔ p.grade < q.grade := by
  rw [compareRestriction_eq, Nat.compare_eq_lt]

theorem atLeast_iff_grade {p q : Policy} : p.AtLeast q ↔ p.grade ≤ q.grade := by
  rw [AtLeast, compareRestriction_eq, Ne, Nat.compare_eq_gt, Nat.not_lt]

theorem tighter_eq_left {p q : Policy} (atLeast : p.AtLeast q) : tighter p q = p := by
  unfold tighter
  split
  case h_1 looser => exact absurd looser atLeast
  case h_2 => rfl

theorem tighter_eq_right {p q : Policy} (stricter : q.grade < p.grade) : tighter p q = q := by
  rw [tighter, compareRestriction_eq, Nat.compare_eq_gt.mpr stricter]

/-- Policies of one grade agree in level and mode. -/
theorem eq_of_grade {p q : Policy} (same : p.grade = q.grade) :
    p.level = q.level ∧ p.mode? = q.mode? := by
  have first := modeRank_lt p.mode?
  have second := modeRank_lt q.mode?
  have level : p.level.rank = q.level.rank := by unfold grade at same; omega
  have mode : modeRank p.mode? = modeRank q.mode? := by unfold grade at same; omega
  constructor
  · revert level
    cases p.level <;> cases q.level <;> simp [AccessLevel.rank]
  · revert mode
    rcases p.mode? with _ | m <;> rcases q.mode? with _ | n
    · simp
    · cases n <;> simp [modeRank, Mode.rank]
    · cases m <;> simp [modeRank, Mode.rank]
    · cases m <;> cases n <;> simp [modeRank, Mode.rank]

/-- A member of a list that is stricter than all before it and as strict as all behind it. -/
def FirstTightest (ps : List Policy) (p : Policy) : Prop :=
  ∃ before after, ps = before ++ p :: after ∧
    (∀ q ∈ before, compareRestriction p q = .lt) ∧ ∀ q ∈ after, compareRestriction p q ≠ .gt

namespace FirstTightest

variable {ps : List Policy} {p : Policy}

theorem mem (chosen : FirstTightest ps p) : p ∈ ps := by
  obtain ⟨before, after, rfl, _⟩ := chosen
  simp

theorem atLeast (chosen : FirstTightest ps p) : ∀ q ∈ ps, p.AtLeast q := by
  obtain ⟨before, after, rfl, early, late⟩ := chosen
  intro q member
  rcases List.mem_append.mp member with first | later
  · rw [AtLeast, early q first]
    decide
  · rcases List.mem_cons.mp later with rfl | last
    · exact AtLeast.refl q
    · exact late q last

end FirstTightest

theorem exists_firstTightest {ps : List Policy} (present : ps ≠ []) : ∃ p, FirstTightest ps p := by
  induction ps with
  | nil => contradiction
  | cons p rest ih =>
    by_cases alone : rest = []
    · exact ⟨p, [], [], by rw [alone, List.nil_append], List.forall_mem_nil _, List.forall_mem_nil _⟩
    · obtain ⟨r, chosen⟩ := ih alone
      by_cases first : p.grade ≤ r.grade
      · refine ⟨p, [], rest, rfl, List.forall_mem_nil _, fun q member => ?_⟩
        have below := atLeast_iff_grade.mp (chosen.atLeast q member)
        exact atLeast_iff_grade.mpr (Nat.le_trans first below)
      · obtain ⟨before, after, rfl, early, late⟩ := chosen
        have stricter : compareRestriction r p = .lt := stricter_iff.mpr (Nat.lt_of_not_le first)
        exact ⟨r, p :: before, after, rfl, List.forall_mem_cons.mpr ⟨stricter, early⟩, late⟩

theorem foldl_tighter_self {p : Policy} {after : List Policy}
    (late : ∀ q ∈ after, p.AtLeast q) : after.foldl tighter p = p := by
  induction after with
  | nil => rfl
  | cons q rest ih =>
    obtain ⟨next, others⟩ := List.forall_mem_cons.mp late
    rw [List.foldl_cons, tighter_eq_left next, ih others]

theorem FirstTightest.mostRestrictive {ps : List Policy} {p : Policy}
    (chosen : FirstTightest ps p) : mostRestrictive ps = some p := by
  obtain ⟨before, after, rfl, early, late⟩ := chosen
  cases before with
  | nil => exact congrArg some (foldl_tighter_self late)
  | cons b bs =>
    have stricter := stricter_iff.mp (early _ (foldl_tighter_mem bs b))
    rw [List.cons_append, Policy.mostRestrictive, List.foldl_append, List.foldl_cons,
      tighter_eq_right stricter, foldl_tighter_self late]

theorem mostRestrictive_eq_none_iff {ps : List Policy} : mostRestrictive ps = none ↔ ps = [] := by
  cases ps <;> simp [mostRestrictive]

theorem mostRestrictive_eq_some_iff {ps : List Policy} {p : Policy} :
    mostRestrictive ps = some p ↔ FirstTightest ps p := by
  constructor
  · intro found
    have present : ps ≠ [] := by
      rintro rfl
      cases found
    obtain ⟨r, chosen⟩ := exists_firstTightest present
    obtain rfl := Option.some.inj (chosen.mostRestrictive.symm.trans found)
    exact chosen
  · exact FirstTightest.mostRestrictive

/-- The first tightest among the first tightest of parts, which is the one of the whole. -/
theorem FirstTightest.flatten {parts : List (List Policy)} {p : Policy}
    (chosen : FirstTightest (parts.filterMap Policy.mostRestrictive) p) :
    FirstTightest parts.flatten p := by
  obtain ⟨before, after, split, early, late⟩ := chosen
  obtain ⟨front, rest, rfl, rfl, later⟩ := List.filterMap_eq_append_iff.mp split
  obtain ⟨skipped, part, back, rfl, empty, own, rfl⟩ := List.filterMap_eq_cons_iff.mp later
  obtain ⟨first, last, rfl, ownEarly, ownLate⟩ := mostRestrictive_eq_some_iff.mp own
  -- what stands in a part is no stricter than what is chosen from that part
  have lead {part : List Policy} {q : Policy} (member : q ∈ part) :
      ∃ r, Policy.mostRestrictive part = some r ∧ r.AtLeast q := by
    obtain ⟨r, best⟩ := exists_firstTightest (List.ne_nil_of_mem member)
    exact ⟨r, best.mostRestrictive, best.atLeast q member⟩
  have blank : skipped.flatten = [] := by
    rw [List.flatten_eq_nil_iff]
    exact fun part member => mostRestrictive_eq_none_iff.mp (empty part member)
  refine ⟨front.flatten ++ first, last ++ back.flatten, ?_, ?_, ?_⟩
  · simp [blank]
  · rw [List.forall_mem_append]
    refine ⟨fun q member => ?_, ownEarly⟩
    obtain ⟨part, inside, member⟩ := List.mem_flatten.mp member
    obtain ⟨r, best, below⟩ := lead member
    have stricter := stricter_iff.mp (early r (List.mem_filterMap.mpr ⟨part, inside, best⟩))
    exact stricter_iff.mpr (Nat.lt_of_lt_of_le stricter (atLeast_iff_grade.mp below))
  · rw [List.forall_mem_append]
    refine ⟨ownLate, fun q member => ?_⟩
    obtain ⟨part, inside, member⟩ := List.mem_flatten.mp member
    obtain ⟨r, best, below⟩ := lead member
    have atLeast := atLeast_iff_grade.mp (late r (List.mem_filterMap.mpr ⟨part, inside, best⟩))
    exact atLeast_iff_grade.mpr (Nat.le_trans atLeast (atLeast_iff_grade.mp below))

theorem mostRestrictive_flatten (parts : List (List Policy)) :
    mostRestrictive parts.flatten = mostRestrictive (parts.filterMap mostRestrictive) := by
  cases best : mostRestrictive (parts.filterMap mostRestrictive) with
  | some p => exact (mostRestrictive_eq_some_iff.mp best).flatten.mostRestrictive
  | none =>
    have empty := List.filterMap_eq_nil_iff.mp (mostRestrictive_eq_none_iff.mp best)
    rw [mostRestrictive_eq_none_iff, List.flatten_eq_nil_iff]
    exact fun part member => mostRestrictive_eq_none_iff.mp (empty part member)

theorem FirstTightest.grade_perm {ps qs : List Policy} {p q : Policy} (same : qs.Perm ps)
    (first : FirstTightest ps p) (second : FirstTightest qs q) : q.grade = p.grade := by
  have lower := atLeast_iff_grade.mp (first.atLeast q (same.mem_iff.mp second.mem))
  have upper := atLeast_iff_grade.mp (second.atLeast p (same.mem_iff.mpr first.mem))
  exact Nat.le_antisymm upper lower

/-- Comparing is a total preorder, and its outcomes are those of that order. -/
structure RestrictionPreorder : Prop where
  refl : ∀ p : Policy, p.AtLeast p
  trans : ∀ p q r : Policy, p.AtLeast q → q.AtLeast r → p.AtLeast r
  total : ∀ p q : Policy, p.AtLeast q ∨ q.AtLeast p
  less : ∀ p q : Policy, compareRestriction p q = .lt ↔ ¬ q.AtLeast p
  equal : ∀ p q : Policy, compareRestriction p q = .eq ↔ p.AtLeast q ∧ q.AtLeast p

theorem restriction_preorder : RestrictionPreorder where
  refl := AtLeast.refl
  trans p q r := by
    rw [atLeast_iff_grade, atLeast_iff_grade, atLeast_iff_grade]
    exact Nat.le_trans
  total p q := by
    rw [atLeast_iff_grade, atLeast_iff_grade]
    exact Nat.le_total p.grade q.grade
  less p q := by rw [stricter_iff, atLeast_iff_grade, Nat.not_le]
  equal p q := by
    rw [compareRestriction_eq, Nat.compare_eq_eq, atLeast_iff_grade, atLeast_iff_grade]
    exact Nat.le_antisymm_iff

/-- What is chosen from a list of policies. -/
structure ChoosesFirstTightest (ps : List Policy) : Prop where
  none_iff : mostRestrictive ps = none ↔ ps = []
  some_iff : ∀ p, mostRestrictive ps = some p ↔ FirstTightest ps p
  /-- The list may be taken in parts, of which the empty ones have no result. -/
  inParts : ∀ parts : List (List Policy), parts.flatten = ps →
    mostRestrictive ps = mostRestrictive (parts.filterMap mostRestrictive)
  permuted : ∀ qs : List Policy, qs.Perm ps →
    (mostRestrictive qs).map (fun q => (q.level, q.mode?)) =
      (mostRestrictive ps).map fun p => (p.level, p.mode?)

/-- The most restrictive policy of a list is the first one that is stricter than all before it and
as strict as all behind it, in the order that restrictiveness is. -/
theorem mostRestrictive_choosesFirst :
    RestrictionPreorder ∧ ∀ ps : List Policy, ChoosesFirstTightest ps := by
  refine ⟨restriction_preorder, fun ps => ?_⟩
  constructor
  case none_iff => exact mostRestrictive_eq_none_iff
  case some_iff => exact fun p => mostRestrictive_eq_some_iff
  case inParts =>
    rintro parts rfl
    exact mostRestrictive_flatten parts
  case permuted =>
    intro qs same
    cases best : mostRestrictive ps with
    | none =>
      obtain rfl := mostRestrictive_eq_none_iff.mp best
      rw [same.eq_nil]
      rfl
    | some p =>
      have chosen := mostRestrictive_eq_some_iff.mp best
      have present : qs ≠ [] := List.ne_nil_of_mem (same.mem_iff.mpr chosen.mem)
      obtain ⟨q, other⟩ := exists_firstTightest present
      obtain ⟨level, mode⟩ := eq_of_grade (chosen.grade_perm same other)
      rw [other.mostRestrictive, Option.map_some, Option.map_some, level, mode]

end MapGate.Policy
