import MapGate.Access.Policy
import MapGate.Proofs.Access.Meet
import MapGate.Region.Overlay

/-!
Restrictiveness of policies. Limits that permit no more, in mode, reading and writing, lead to a
policy that is no less restrictive, and the intersection of a list permits no more than any of its
members. So the policy of the intersection is at least as restrictive as the policy of each member
and as the most restrictive one among them.
-/
namespace MapGate

namespace Policy

def AtLeast (p q : Policy) : Prop := compareRestriction p q ≠ .gt

theorem atLeast_iff (p q : Policy) :
    p.AtLeast q ↔ p.level.rank < q.level.rank ∨
      p.level.rank = q.level.rank ∧ modeRank p.mode? ≤ modeRank q.mode? := by
  unfold AtLeast compareRestriction
  rcases Nat.lt_trichotomy p.level.rank q.level.rank with less | equal | more
  · simp [Nat.compare_eq_lt.mpr less, less]
  · simp [equal, Nat.compare_eq_gt]
  · simp [Nat.compare_eq_gt.mpr more]
    omega

theorem AtLeast.refl (p : Policy) : p.AtLeast p :=
  (atLeast_iff p p).mpr (.inr ⟨rfl, Nat.le_refl _⟩)

theorem limits_ofLimits (l : Limits) (mixed : MixedBehavior) :
    (ofLimits (some l) mixed).limits = some l := by
  unfold ofLimits
  dsimp only
  split
  · split <;> rfl
  · split
    · split <;> rfl
    · unfold readWrite
      split <;> rfl

theorem mode?_ofLimits (l : Limits) (mixed : MixedBehavior) :
    (ofLimits (some l) mixed).mode? = some l.mode := by
  rw [mode?, limits_ofLimits, Option.map_some]

/-- Whether unreadable limits of a mode are hidden, and not reduced to metadata. -/
def conceals : MixedBehavior → Mode → Bool
  | _, .hide => true
  | .hide, .mixed => true
  | .challenge, .mixed => false
  | _, .challenge => false

def levelOf : (read write concealed : Bool) → AccessLevel
  | true, true, _ => .readWrite
  | true, false, _ => .readOnly
  | false, _, true => .hidden
  | false, _, false => .metadata

theorem level_ofLimits (l : Limits) (mixed : MixedBehavior) :
    (ofLimits (some l) mixed).level = levelOf l.canRead l.canWrite (conceals mixed l.mode) := by
  cases read : l.canRead with
  | false =>
    cases mode : l.mode <;> cases mixed <;>
      simp [ofLimits, read, mode, levelOf, conceals, hide, metadata]
  | true =>
    cases write : l.canWrite with
    | false =>
      cases mode : l.mode <;>
        simp [ofLimits, read, write, mode, levelOf, readOnlyHide, readOnlyChallenge]
    | true =>
      cases mode : l.mode <;> simp [ofLimits, read, write, mode, levelOf, readWrite]

theorem response_ofLimits (l : Limits) (mixed : MixedBehavior) :
    (ofLimits (some l) mixed).response =
      if l.mode = .hide ∨ (l.canRead = false ∧ conceals mixed l.mode = true) then .hide
      else .challenge := by
  cases read : l.canRead with
  | false =>
    cases mode : l.mode <;> cases mixed <;>
      simp [ofLimits, read, mode, conceals, hide, metadata]
  | true =>
    cases write : l.canWrite <;> cases mode : l.mode <;>
      simp [ofLimits, read, write, mode, readOnlyHide, readOnlyChallenge, readWrite]

/-- Limits in hide mode never lead to a challenge. -/
theorem response_ofLimits_hide {l : Limits} (mode : l.mode = .hide) (mixed : MixedBehavior) :
    (ofLimits (some l) mixed).response = .hide := by
  rw [response_ofLimits, if_pos (.inl mode)]

theorem levelOf_le {read write concealed read' write' concealed' : Bool}
    (reads : read = true → read' = true) (writes : write = true → write' = true)
    (conceals : concealed' = true → concealed = true) :
    (levelOf read write concealed).rank ≤ (levelOf read' write' concealed').rank := by
  revert read write concealed read' write' concealed'
  decide

theorem conceals_of_le {mixed : MixedBehavior} {m n : Mode} (tighter : m.rank ≤ n.rank)
    (concealed : conceals mixed n = true) : conceals mixed m = true := by
  cases mixed <;> cases m <;> cases n <;> simp_all [conceals, Mode.rank]

end Policy

/-- Limits that permit no more than others, in mode, reading and writing. -/
structure NoLooser (a b : Limits) : Prop where
  mode : a.mode.rank ≤ b.mode.rank
  canRead : a.canRead = true → b.canRead = true
  canWrite : a.canWrite = true → b.canWrite = true

namespace NoLooser

variable {a b c : Limits}

theorem refl (a : Limits) : NoLooser a a := ⟨Nat.le_refl _, id, id⟩

theorem trans (first : NoLooser a b) (second : NoLooser b c) : NoLooser a c :=
  ⟨Nat.le_trans first.mode second.mode, second.canRead ∘ first.canRead,
    second.canWrite ∘ first.canWrite⟩

theorem of_meet [Clipping] (meet : IsMeet a b c) : NoLooser c a ∧ NoLooser c b := by
  have rank : c.mode.rank = min a.mode.rank b.mode.rank := by rw [meet.mode, Mode.rank_inter]
  have read := meet.canRead
  have write := meet.canWrite
  constructor
  · exact ⟨by omega, by simp_all, by simp_all⟩
  · exact ⟨by omega, by simp_all, by simp_all⟩

theorem atLeast (tight : NoLooser a b) (mixed : MixedBehavior) :
    (Policy.ofLimits (some a) mixed).AtLeast (Policy.ofLimits (some b) mixed) := by
  have level : (Policy.ofLimits (some a) mixed).level.rank ≤
      (Policy.ofLimits (some b) mixed).level.rank := by
    rw [Policy.level_ofLimits, Policy.level_ofLimits]
    exact Policy.levelOf_le tight.canRead tight.canWrite (Policy.conceals_of_le tight.mode)
  rw [Policy.atLeast_iff, Policy.mode?_ofLimits, Policy.mode?_ofLimits]
  have mode := tight.mode
  simp only [Policy.modeRank]
  omega

end NoLooser

namespace Policy

theorem tighter_choice (p q : Policy) : tighter p q = p ∨ tighter p q = q := by
  unfold tighter
  split
  · exact Or.inr rfl
  · exact Or.inl rfl

theorem foldl_tighter_mem (ps : List Policy) (p : Policy) : ps.foldl tighter p ∈ p :: ps := by
  induction ps generalizing p with
  | nil => simp
  | cons q rest ih =>
    have member := ih (tighter p q)
    rw [List.foldl_cons]
    rcases tighter_choice p q with first | second
    · rw [first] at member ⊢
      rcases List.mem_cons.mp member with same | later
      · simp [same]
      · simp [later]
    · rw [second] at member ⊢
      exact List.mem_cons_of_mem p member

theorem mostRestrictive_mem {ps : List Policy} (nonempty : ps ≠ []) :
    ∃ p ∈ ps, mostRestrictive ps = some p := by
  cases ps with
  | nil => contradiction
  | cons p rest => exact ⟨rest.foldl tighter p, foldl_tighter_mem rest p, rfl⟩

end Policy

theorem interAll_noLooser [Clipping] {ls : List Limits} {kind : LimitsKind} (nonempty : ls ≠ [])
    (same : ∀ l ∈ ls, l.kind = kind) :
    ∃ r, Limits.interAll ls = .ok (some r) ∧ ∀ l ∈ ls, NoLooser r l := by
  have single : ∀ l, ∀ m ∈ [l], NoLooser l m := by
    intro l m member
    rw [List.mem_singleton.mp member]
    exact NoLooser.refl l
  have more : ∀ ls r l c, ls ≠ [] → (∀ m ∈ ls, NoLooser r m) → IsMeet r l c →
      ∀ m ∈ ls ++ [l], NoLooser c m := by
    intro ls r l c _ before meet
    obtain ⟨first, last⟩ := NoLooser.of_meet meet
    rw [List.forall_mem_append, List.forall_mem_singleton]
    exact ⟨fun m member => first.trans (before m member), last⟩
  obtain ⟨r, run, _, tight⟩ := interAll_induction single more nonempty same
  exact ⟨r, run, tight⟩

/-- The policy of `r` is at least as restrictive as the policy of each member of a list, and as the
most restrictive of these. -/
structure RestrictsAll (ls : List Limits) (r : Limits) (mixed : MixedBehavior) : Prop where
  member : ∀ l ∈ ls,
    Policy.compareRestriction (.ofLimits (some r) mixed) (.ofLimits (some l) mixed) ≠ .gt
  strictest : ∃ p, Policy.mostRestrictive (ls.map fun l => .ofLimits (some l) mixed) = some p ∧
    Policy.compareRestriction (.ofLimits (some r) mixed) p ≠ .gt

theorem policy_of_intersection_restricts [Clipping] {ls : List Limits} {kind : LimitsKind}
    (nonempty : ls ≠ []) (same : ∀ l ∈ ls, l.kind = kind) :
    ∃ r, Limits.interAll ls = .ok (some r) ∧ ∀ mixed, RestrictsAll ls r mixed := by
  obtain ⟨r, run, tight⟩ := interAll_noLooser nonempty same
  refine ⟨r, run, fun mixed => ?_⟩
  have each : ∀ l ∈ ls, (Policy.ofLimits (some r) mixed).AtLeast (.ofLimits (some l) mixed) :=
    fun l member => (tight l member).atLeast mixed
  have policies : ls.map (fun l => Policy.ofLimits (some l) mixed) ≠ [] := by simpa using nonempty
  obtain ⟨p, chosen, found⟩ := Policy.mostRestrictive_mem policies
  obtain ⟨l, present, equal⟩ := List.mem_map.mp chosen
  refine ⟨each, p, found, ?_⟩
  rw [← equal]
  exact each l present

/-- Vector limits of which one denies reading and the other one writing, in different modes. -/
theorem policy_of_intersection_restricts_vectors :
    let ls : List Limits := [
      .vector { mode := .challenge, readFilter := .never },
      .vector { mode := .mixed, writeFilter := .never, readAttributes := some ["name"] }]
    (ls ≠ [] ∧ ∀ l ∈ ls, l.kind = .vector) ∧
      ∃ r, Limits.interAll ls = .ok (some r) ∧ ∀ mixed, RestrictsAll ls r mixed := by
  intro ls
  have nonempty : ls ≠ [] := List.cons_ne_nil _ _
  have same : ∀ l ∈ ls, l.kind = .vector := by simp [ls, Limits.kind]
  exact ⟨⟨nonempty, same⟩, policy_of_intersection_restricts nonempty same⟩

end MapGate
