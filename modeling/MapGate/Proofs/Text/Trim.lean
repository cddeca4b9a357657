import Mathlib.Data.List.DropRight
import MapGate.Text.Blank

/-!
Trimming. What is left of a text neither begins nor ends with a blank character, so that trimming it
again changes nothing.
-/
namespace MapGate.Text

theorem trimStart_of_prefix {cs start : List Char} (early : start <+: trimStart cs) :
    trimStart start = start := by
  cases start with
  | nil => rfl
  | cons c rest =>
    obtain ⟨behind, whole⟩ := early
    have head := List.head?_dropWhile_not isBlank cs
    rw [show cs.dropWhile isBlank = c :: (rest ++ behind) from whole.symm] at head
    exact List.dropWhile_cons_of_neg (by simpa using head)

theorem trim_trim (cs : List Char) : trim (trim cs) = trim cs := by
  have early : trim cs <+: trimStart cs := List.rdropWhile_prefix isBlank (trimStart cs)
  calc trim (trim cs) = trimEnd (trim cs) := by rw [trim, trimStart_of_prefix early]
    _ = trim cs := List.rdropWhile_idempotent isBlank (trimStart cs)

theorem trimStart_eq_self_iff {cs : List Char} :
    trimStart cs = cs ↔ ∀ c ∈ cs.head?, isBlank c = false := by
  refine List.dropWhile_eq_self_iff.trans ?_
  cases cs <;> simp

theorem trimEnd_eq_self_iff {cs : List Char} :
    trimEnd cs = cs ↔ ∀ c ∈ cs.getLast?, isBlank c = false := by
  refine List.rdropWhile_eq_self_iff.trans ?_
  cases cs with
  | nil => simp
  | cons c rest => simp [List.getLast?_eq_some_getLast (List.cons_ne_nil c rest)]

/-- A text is trimmed if it neither begins nor ends with a blank character. -/
theorem trim_eq_self_iff {cs : List Char} : trim cs = cs ↔
    (∀ c ∈ cs.head?, isBlank c = false) ∧ ∀ c ∈ cs.getLast?, isBlank c = false := by
  rw [← trimStart_eq_self_iff, ← trimEnd_eq_self_iff]
  constructor
  · intro whole
    have early : trim cs <+: trimStart cs := List.rdropWhile_prefix isBlank (trimStart cs)
    rw [whole] at early
    have start : trimStart cs = cs :=
      (List.dropWhile_suffix isBlank).eq_of_length_le early.length_le
    exact ⟨start, by rwa [trim, start] at whole⟩
  · rintro ⟨start, finish⟩
    rw [trim, start, finish]

theorem trim_of_solid {cs : List Char} (solid : ∀ c ∈ cs, isBlank c = false) : trim cs = cs :=
  trim_eq_self_iff.mpr
    ⟨fun c first => solid c (List.mem_of_mem_head? first),
      fun c last => solid c (List.mem_of_getLast? last)⟩

theorem trim_cons {c : Char} {cs : List Char} (solid : isBlank c = false) (present : cs ≠ [])
    (bare : trim cs = cs) : trim (c :: cs) = c :: cs := by
  obtain ⟨first, rest, rfl⟩ := List.exists_cons_of_ne_nil present
  obtain ⟨_, last⟩ := trim_eq_self_iff.mp bare
  refine trim_eq_self_iff.mpr ⟨?_, ?_⟩
  · simpa using solid
  · rwa [List.getLast?_cons_cons]

theorem trim_eq_nil_iff {cs : List Char} : trim cs = [] ↔ ∀ c ∈ cs, isBlank c = true := by
  constructor
  · intro empty
    have rest : ∀ c ∈ cs.dropWhile isBlank, isBlank c = true := List.rdropWhile_eq_nil_iff.mp empty
    have none : cs.dropWhile isBlank = [] := by
      cases left : cs.dropWhile isBlank with
      | nil => rfl
      | cons c more =>
        have solid := List.head?_dropWhile_not isBlank cs
        rw [left] at solid rest
        exact absurd (rest c List.mem_cons_self) (by simpa using solid)
    exact List.dropWhile_eq_nil_iff.mp none
  · intro blank
    rw [trim, trimStart, List.dropWhile_eq_nil_iff.mpr blank]
    rfl

end MapGate.Text
