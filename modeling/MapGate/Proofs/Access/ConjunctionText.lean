import Mathlib.Data.List.Infix
import MapGate.Access.Predicate

/-!
The texts of conjunctions. Every part stands in parentheses. If the parentheses in the parts
themselves are balanced, the one that closes a part is the first that closes more than was opened in
it, so the text of a conjunction of expressions determines its parts and their order.
-/
namespace MapGate

/-- As many parentheses are closed as are opened, and nowhere more than were opened before. -/
structure Text.Balanced (cs : List Char) : Prop where
  before : ∀ start, start <+: cs → start.count ')' ≤ start.count '('
  whole : cs.count '(' = cs.count ')'

instance (cs : List Char) : Decidable (Text.Balanced cs) :=
  decidable_of_iff
    ((∀ start ∈ cs.inits, start.count ')' ≤ start.count '(') ∧ cs.count '(' = cs.count ')') (by
      simp only [List.mem_inits]
      exact ⟨fun ⟨before, whole⟩ => ⟨before, whole⟩, fun ⟨before, whole⟩ => ⟨before, whole⟩⟩)

namespace Text.Balanced

variable {s t u v : List Char}

theorem not_closed_inside (first : Balanced s) (second : Balanced t) : t ≠ s ++ ')' :: u := by
  rintro rfl
  have early : s ++ [')'] <+: s ++ ')' :: u := ⟨u, by simp⟩
  have opened := second.before _ early
  have even := first.whole
  rw [List.count_append, List.count_append] at opened
  simp at opened
  omega

/-- A balanced text ends at the first parenthesis that it does not open. -/
theorem cut_inj (first : Balanced s) (second : Balanced t)
    (same : s ++ ')' :: u = t ++ ')' :: v) : s = t ∧ u = v := by
  rcases List.append_eq_append_iff.mp same with ⟨more, rfl, rest⟩ | ⟨more, rfl, rest⟩
  · cases more with
    | nil =>
      rw [List.append_nil]
      exact ⟨rfl, (List.cons.inj rest).2⟩
    | cons c more =>
      obtain ⟨rfl, _⟩ := List.cons.inj rest
      exact absurd rfl (first.not_closed_inside second)
  · cases more with
    | nil =>
      rw [List.append_nil]
      exact ⟨rfl, (List.cons.inj rest).2.symm⟩
    | cons c more =>
      obtain ⟨rfl, _⟩ := List.cons.inj rest
      exact absurd rfl (second.not_closed_inside first)

end Text.Balanced

namespace Predicate

/-- An expression whose text has balanced parentheses. -/
def IsBalancedExpr (p : Predicate) : Prop := ∃ text, p = expr text ∧ Text.Balanced text.toList

/-- The text between two parts, without the parenthesis that closes the first. -/
def joint : List Char := [' ', 'A', 'N', 'D', ' ', '(']

/-- The text behind the first part of a conjunction. -/
def laterText : List Predicate → List Char
  | [] => []
  | p :: rest => joint ++ (p.text.toList ++ ')' :: laterText rest)

theorem laterText_eq (p : Predicate) (rest : List Predicate) :
    laterText (p :: rest) = " AND ".toList ++ (conj (p :: rest)).text.toList := by
  rw [text]
  induction rest generalizing p with
  | nil => simp [joinText, laterText, joint]
  | cons q rest ih =>
    rw [laterText, ih q]
    simp [joinText, joint]

theorem expr_text_inj {p q : Predicate} (first : p.IsBalancedExpr) (second : q.IsBalancedExpr)
    (same : p.text.toList = q.text.toList) : p = q := by
  obtain ⟨s, rfl, _⟩ := first
  obtain ⟨t, rfl, _⟩ := second
  rw [text, text, String.toList_inj] at same
  rw [same]

theorem IsBalancedExpr.balanced {p : Predicate} (simple : p.IsBalancedExpr) :
    Text.Balanced p.text.toList := by
  obtain ⟨text, rfl, balanced⟩ := simple
  rwa [Predicate.text]

/-- Two parts with what follows them are the same text only if both agree. -/
theorem part_inj {p q : Predicate} (first : p.IsBalancedExpr) (second : q.IsBalancedExpr)
    {u v : List Char} (same : p.text.toList ++ ')' :: u = q.text.toList ++ ')' :: v) :
    p = q ∧ u = v := by
  obtain ⟨alike, rest⟩ := first.balanced.cut_inj second.balanced same
  exact ⟨expr_text_inj first second alike, rest⟩

theorem laterText_inj {ps qs : List Predicate} (first : ∀ p ∈ ps, p.IsBalancedExpr)
    (second : ∀ q ∈ qs, q.IsBalancedExpr) (same : laterText ps = laterText qs) : ps = qs := by
  induction ps generalizing qs with
  | nil =>
    cases qs with
    | nil => rfl
    | cons q qs => simp [laterText, joint] at same
  | cons p ps ih =>
    cases qs with
    | nil => simp [laterText, joint] at same
    | cons q qs =>
      obtain ⟨simple, others⟩ := List.forall_mem_cons.mp first
      obtain ⟨plain, more⟩ := List.forall_mem_cons.mp second
      obtain ⟨rfl, rest⟩ := part_inj simple plain (List.append_cancel_left same)
      rw [ih others more rest]

theorem text_conj_eq_empty_iff {ps : List Predicate} : (conj ps).text = "" ↔ ps = [] := by
  rw [text]
  rcases ps with _ | ⟨p, _ | ⟨q, rest⟩⟩ <;> simp [joinText]

/-- Conjunctions of expressions with balanced parentheses have the same text only if they have the
same parts in the same order. -/
theorem text_conj_inj {ps qs : List Predicate} (first : ∀ p ∈ ps, p.IsBalancedExpr)
    (second : ∀ q ∈ qs, q.IsBalancedExpr) : (conj ps).text = (conj qs).text ↔ ps = qs := by
  constructor
  · intro same
    cases ps with
    | nil =>
      rw [text_conj_eq_empty_iff.mpr rfl] at same
      exact (text_conj_eq_empty_iff.mp same.symm).symm
    | cons p rest =>
      cases qs with
      | nil =>
        rw [text_conj_eq_empty_iff.mpr rfl] at same
        exact text_conj_eq_empty_iff.mp same
      | cons q more =>
        apply laterText_inj first second
        rw [laterText_eq, laterText_eq, same]
  · exact congrArg fun parts => (conj parts).text

/-- A part in which `) AND (` stands, and the two parts that it looks like. -/
theorem text_conj_inj_joined :
    let ps := [expr "(a) AND (b)", expr "c"]
    let qs := [expr "(a)", expr "(b)", expr "c"]
    (∀ p ∈ ps, p.IsBalancedExpr) ∧ (∀ q ∈ qs, q.IsBalancedExpr) ∧
      (conj ps).text ≠ (conj qs).text := by
  intro ps qs
  have first : ∀ p ∈ ps, p.IsBalancedExpr := by
    simp only [ps, List.forall_mem_cons]
    exact ⟨⟨_, rfl, by decide⟩, ⟨_, rfl, by decide⟩, nofun⟩
  have second : ∀ q ∈ qs, q.IsBalancedExpr := by
    simp only [qs, List.forall_mem_cons]
    exact ⟨⟨_, rfl, by decide⟩, ⟨_, rfl, by decide⟩, ⟨_, rfl, by decide⟩, nofun⟩
  refine ⟨first, second, ?_⟩
  rw [Ne, text_conj_inj first second]
  decide

end Predicate
end MapGate
