import MapGate.Proofs.Access.Meet

/-!
When an intersection of access limits fails. It does if limits of two kinds are among them, and the
error names the kind of the first limits and that of the first ones after them that are of another
kind. What the limits in between permit, and what is left of it, plays no part.
-/
namespace MapGate

/-- The error names the first kind in a list and the next one that differs from it. -/
def FirstMismatch (ls : List Limits) (e : IntersectionError) : Prop :=
  ∃ first before odd after, ls = first :: (before ++ odd :: after) ∧
    (∀ l ∈ before, l.kind = first.kind) ∧ odd.kind ≠ first.kind ∧
    e = .mismatched first.kind odd.kind

theorem inter_mismatched [Clipping] {a b : Limits} (differs : b.kind ≠ a.kind) :
    a.inter b = .error (.mismatched a.kind b.kind) := by
  cases a <;> cases b <;> first | rfl | exact absurd rfl differs

/-- As far as a list is of one kind, its intersection is of that kind. -/
theorem interAll_kind [Clipping] {first : Limits} {before : List Limits}
    (same : ∀ l ∈ before, l.kind = first.kind) :
    ∃ r, Limits.interAll (first :: before) = .ok (some r) ∧ r.kind = first.kind := by
  have all : ∀ l ∈ first :: before, l.kind = first.kind := List.forall_mem_cons.mpr ⟨rfl, same⟩
  obtain ⟨r, run, kind, _⟩ := interAll_induction (P := fun _ _ => True) (fun _ => trivial)
    (fun _ _ _ _ _ _ _ => trivial) (List.cons_ne_nil first before) all
  exact ⟨r, run, kind⟩

theorem interAll_append_of_error [Clipping] {ls : List Limits} {e : IntersectionError}
    (failed : Limits.interAll ls = .error e) (more : List Limits) :
    Limits.interAll (ls ++ more) = .error e := by
  unfold Limits.interAll at failed ⊢
  rw [List.foldlM_append, failed]
  rfl

theorem FirstMismatch.interAll [Clipping] {ls : List Limits} {e : IntersectionError}
    (mismatch : FirstMismatch ls e) : Limits.interAll ls = .error e := by
  obtain ⟨first, before, odd, after, rfl, same, differs, rfl⟩ := mismatch
  obtain ⟨r, run, kind⟩ := interAll_kind same
  -- what the members before leave is of the first kind still, so the step to the odd one fails
  rw [← kind] at differs ⊢
  have failed :
      Limits.interAll (first :: before ++ [odd]) = .error (.mismatched r.kind odd.kind) := by
    rw [interAll_concat, run, Except.bind, Limits.interOptional, inter_mismatched differs]
    rfl
  rw [List.append_cons, ← List.cons_append]
  exact interAll_append_of_error failed after

/-- The members of a list are of one kind, or there is a first one that is not of the kind of those
before it. -/
theorem same_kind_or_mismatch (first : Limits) (rest : List Limits) :
    (∀ l ∈ rest, l.kind = first.kind) ∨ ∃ e, FirstMismatch (first :: rest) e := by
  cases found : rest.find? fun l => l.kind ≠ first.kind with
  | none =>
    left
    simpa using found
  | some odd =>
    right
    obtain ⟨differs, before, after, split, same⟩ := List.find?_eq_some_iff_append.mp found
    refine ⟨_, first, before, odd, after, by rw [split], ?_, of_decide_eq_true differs, rfl⟩
    simpa using same

theorem interAll_error_iff [Clipping] {ls : List Limits} {e : IntersectionError} :
    Limits.interAll ls = .error e ↔ FirstMismatch ls e := by
  refine ⟨?_, FirstMismatch.interAll⟩
  intro failed
  cases ls with
  | nil => cases failed
  | cons first rest =>
    rcases same_kind_or_mismatch first rest with same | ⟨e', mismatch⟩
    · obtain ⟨r, run, _⟩ := interAll_kind same
      exact nomatch failed.symm.trans run
    · obtain rfl := Except.error.inj (mismatch.interAll.symm.trans failed)
      exact mismatch

theorem FirstMismatch.mixed {ls : List Limits} {e : IntersectionError}
    (mismatch : FirstMismatch ls e) : ∃ a ∈ ls, ∃ b ∈ ls, a.kind ≠ b.kind := by
  obtain ⟨first, before, odd, after, rfl, _, differs, _⟩ := mismatch
  exact ⟨odd, by simp, first, by simp, differs⟩

/-- What the kinds in a list make of its intersection. -/
structure DecidedByKinds [Clipping] (ls : List Limits) : Prop where
  fails : (∃ e, Limits.interAll ls = .error e) ↔ ∃ a ∈ ls, ∃ b ∈ ls, a.kind ≠ b.kind
  error : ∀ e, Limits.interAll ls = .error e ↔ FirstMismatch ls e
  kind : ∀ x, Limits.interAll ls = .ok x → ls ≠ [] → ∃ r, x = some r ∧ ∀ l ∈ ls, l.kind = r.kind
  nothing : ls = [] → Limits.interAll ls = .ok none

/-- The intersection of a list fails exactly if it mixes kinds, with the first mismatch as error,
and otherwise is of the one kind there is. -/
theorem interAll_decidedByKinds [Clipping] (ls : List Limits) : DecidedByKinds ls := by
  have one_kind {first : Limits} {rest : List Limits} {x : Option Limits}
      (run : Limits.interAll (first :: rest) = .ok x) : ∀ l ∈ rest, l.kind = first.kind := by
    refine (same_kind_or_mismatch first rest).resolve_right ?_
    intro mixed
    obtain ⟨e, mismatch⟩ := mixed
    exact nomatch run.symm.trans mismatch.interAll
  constructor
  case fails =>
    constructor
    · intro failure
      obtain ⟨e, failed⟩ := failure
      exact (interAll_error_iff.mp failed).mixed
    · intro mixed
      obtain ⟨a, memberA, b, memberB, differs⟩ := mixed
      cases run : Limits.interAll ls with
      | error e => exact ⟨e, rfl⟩
      | ok x =>
        cases ls with
        | nil => cases memberA
        | cons first rest =>
          have all : ∀ l ∈ first :: rest, l.kind = first.kind :=
            List.forall_mem_cons.mpr ⟨rfl, one_kind run⟩
          exact absurd ((all a memberA).trans (all b memberB).symm) differs
  case error => exact fun e => interAll_error_iff
  case kind =>
    intro x run nonempty
    cases ls with
    | nil => contradiction
    | cons first rest =>
      have same := one_kind run
      obtain ⟨r, result, kind⟩ := interAll_kind same
      obtain rfl := Except.ok.inj (result.symm.trans run)
      refine ⟨r, rfl, ?_⟩
      rw [kind]
      exact List.forall_mem_cons.mpr ⟨rfl, same⟩
  case nothing =>
    intro empty
    rw [empty]
    rfl

end MapGate
