/-!
A function that may fail on each element of a list in order. All results are there exactly if the
function fails on no element, and an error is that of the first element on which it fails.
-/
namespace MapGate

variable {α β ε : Type} {f : α → Except ε β}

theorem bind_eq_ok_iff {x : Except ε α} {b : β} :
    x >>= f = .ok b ↔ ∃ a, x = .ok a ∧ f a = .ok b := by
  cases x <;> simp [bind, Except.bind]

theorem mapM_ok_iff {xs : List α} {ys : List β} :
    xs.mapM f = .ok ys ↔ xs.map f = ys.map .ok := by
  induction xs generalizing ys with
  | nil => cases ys <;> simp [pure, Except.pure]
  | cons x xs ih =>
    rw [List.mapM_cons, List.map_cons]
    cases ys with
    | nil =>
      refine iff_of_false ?_ nofun
      cases f x <;> cases xs.mapM f <;> nofun
    | cons y ys =>
      rw [List.map_cons, List.cons.injEq, ← ih]
      cases f x <;> cases xs.mapM f <;> simp [bind, Except.bind, pure, Except.pure]

theorem mapM_error_iff {xs : List α} {e : ε} : xs.mapM f = .error e ↔
    ∃ before x after, xs = before ++ x :: after ∧ (∀ y ∈ before, ∃ b, f y = .ok b) ∧
      f x = .error e := by
  induction xs with
  | nil => simp [pure, Except.pure]
  | cons x xs ih =>
    rw [List.mapM_cons]
    cases first : f x with
    | error e' =>
      constructor
      · rintro ⟨⟩
        exact ⟨[], x, xs, rfl, nofun, first⟩
      · rintro ⟨before, y, after, split, passed, failed⟩
        cases before with
        | nil =>
          cases split
          obtain rfl := Except.error.inj (first.symm.trans failed)
          rfl
        | cons z before =>
          cases split
          obtain ⟨b, ok⟩ := passed x List.mem_cons_self
          exact nomatch first.symm.trans ok
    | ok y =>
      have rest :
          (do let ys ← xs.mapM f; pure (y :: ys)) = Except.error e ↔ xs.mapM f = .error e := by
        cases xs.mapM f <;> simp [bind, Except.bind, pure, Except.pure]
      refine rest.trans (ih.trans ⟨?_, ?_⟩)
      · rintro ⟨before, z, after, rfl, passed, failed⟩
        exact ⟨x :: before, z, after, rfl, List.forall_mem_cons.mpr ⟨⟨y, first⟩, passed⟩, failed⟩
      · rintro ⟨before, z, after, split, passed, failed⟩
        cases before with
        | nil =>
          cases split
          exact nomatch first.symm.trans failed
        | cons w before =>
          cases split
          exact ⟨before, z, after, rfl, (List.forall_mem_cons.mp passed).2, failed⟩

theorem mapM_fails_iff {xs : List α} :
    (∃ e, xs.mapM f = .error e) ↔ ∃ x ∈ xs, ∃ e, f x = .error e := by
  constructor
  · rintro ⟨e, failed⟩
    obtain ⟨before, x, after, rfl, _, own⟩ := mapM_error_iff.mp failed
    exact ⟨x, by simp, e, own⟩
  · rintro ⟨x, member, e, failed⟩
    cases run : xs.mapM f with
    | error e => exact ⟨e, rfl⟩
    | ok ys =>
      have passed : f x ∈ ys.map .ok := mapM_ok_iff.mp run ▸ List.mem_map_of_mem member
      simp [failed] at passed

end MapGate
