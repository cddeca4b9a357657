import Mathlib.Data.List.Induction
import MapGate.Access.Predicate

/-!
Conjunction of filter predicates. Under every assignment of truth values it is true when both
operands are, and it is the denying sentinel exactly when one of them is. It may be regrouped at
will, with `always` as its unit and `never` as its zero. Predicates of any shape are covered, also
conjunctions without parts or inside each other.
-/
namespace MapGate.Predicate

theorem isNever_and (p q : Predicate) : (p.and q).isNever = (p.isNever || q.isNever) := by
  cases p <;> cases q <;> rfl

theorem evalAll_append (truth : String → Bool) (ps qs : List Predicate) :
    evalAll truth (ps ++ qs) = (evalAll truth ps && evalAll truth qs) := by
  simp [evalAll_eq_all]

theorem evalAll_parts (truth : String → Bool) (p : Predicate) :
    evalAll truth p.parts = p.eval truth := by
  cases p <;> simp [parts, eval, evalAll]

theorem eval_and (truth : String → Bool) (p q : Predicate) :
    (p.and q).eval truth = (p.eval truth && q.eval truth) := by
  fun_cases Predicate.and p q with
  | case1 q => simp [eval]
  | case2 p => simp [eval]
  | case3 q => simp [eval]
  | case4 p => simp [eval]
  | case5 p q => rw [eval, evalAll_append, evalAll_parts, evalAll_parts]

theorem eval_and_iff (truth : String → Bool) (p q : Predicate) :
    (p.and q).eval truth = true ↔ p.eval truth = true ∧ q.eval truth = true := by
  rw [eval_and, Bool.and_eq_true]

theorem eval_conj_iff (truth : String → Bool) (ps : List Predicate) :
    (conj ps).eval truth = true ↔ ∀ p ∈ ps, p.eval truth = true := by
  rw [eval, evalAll_eq_all, List.all_eq_true]

theorem always_and (p : Predicate) : always.and p = p := by
  cases p <;> rfl

theorem and_always (p : Predicate) : p.and always = p := by
  cases p <;> rfl

theorem never_and (p : Predicate) : never.and p = never := rfl

theorem and_never (p : Predicate) : p.and never = never := by
  cases p <;> rfl

/-- An expression or a conjunction, but neither sentinel. -/
def Proper (p : Predicate) : Prop := p ≠ always ∧ p ≠ never

theorem sentinel_or_proper (p : Predicate) : p = always ∨ p = never ∨ p.Proper := by
  cases p <;> simp [Proper]

theorem proper_conj (ps : List Predicate) : (conj ps).Proper := by simp [Proper]

theorem and_of_proper {p q : Predicate} (left : p.Proper) (right : q.Proper) :
    p.and q = conj (p.parts ++ q.parts) := by
  fun_cases Predicate.and p q with
  | case1 | case2 | case3 | case4 => simp [Proper] at left right
  | case5 => rfl

theorem and_assoc (p q r : Predicate) : (p.and q).and r = p.and (q.and r) := by
  rcases p.sentinel_or_proper with rfl | rfl | first
  · rw [always_and, always_and]
  · rw [never_and, never_and, never_and]
  rcases q.sentinel_or_proper with rfl | rfl | second
  · rw [and_always, always_and]
  · rw [and_never, never_and, and_never]
  rcases r.sentinel_or_proper with rfl | rfl | third
  · rw [and_always, and_always]
  · rw [and_never, and_never, and_never]
  -- between proper predicates the parts are joined, and that is associative
  rw [and_of_proper first second, and_of_proper second third, and_of_proper (proper_conj _) third,
    and_of_proper first (proper_conj _), parts, parts, List.append_assoc]

theorem andAll_concat (ps : List Predicate) (last : Predicate) :
    andAll (ps ++ [last]) = (andAll ps).and last := by
  simp [andAll]

theorem andAll_append (ps qs : List Predicate) :
    andAll (ps ++ qs) = (andAll ps).and (andAll qs) := by
  induction qs using List.reverseRecOn with
  | nil =>
    rw [List.append_nil]
    exact (and_always _).symm
  | append_singleton qs last ih =>
    rw [← List.append_assoc, andAll_concat, andAll_concat, ih, and_assoc]

/-- Conjunctions may be regrouped, over predicates of any shape and over lists, without a change of
the predicate, and they hold where all their operands do. -/
theorem conjunction_regroups :
    (∀ a b c : Predicate, (a.and b).and c = a.and (b.and c)) ∧
      (∀ a : Predicate, always.and a = a ∧ a.and always = a) ∧
      (∀ a : Predicate, never.and a = never ∧ a.and never = never) ∧
      (∀ xs ys : List Predicate, andAll (xs ++ ys) = (andAll xs).and (andAll ys)) ∧
      (∀ (truth : String → Bool) (parts : List Predicate),
        (conj parts).eval truth = true ↔ ∀ part ∈ parts, part.eval truth = true) ∧
      ∀ (truth : String → Bool) (a b : Predicate),
        (a.and b).eval truth = true ↔ a.eval truth = true ∧ b.eval truth = true := by
  refine ⟨and_assoc, ?unit, ?zero, andAll_append, eval_conj_iff, eval_and_iff⟩
  case unit =>
    intro a
    exact ⟨always_and a, and_always a⟩
  case zero =>
    intro a
    exact ⟨never_and a, and_never a⟩

end MapGate.Predicate
