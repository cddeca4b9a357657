import MapGate.Text.Blank

/-!
Cutting a text at a separator. The pieces are the only list of texts without the separator that,
each but the first behind a separator, make up the text.
-/
namespace MapGate.Text

/-- The text of some pieces that all stand behind a separator. -/
def behind (separator : Char) (pieces : List (List Char)) : List Char :=
  pieces.flatMap (separator :: ·)

theorem behind_nil (separator : Char) : behind separator [] = [] := rfl

theorem behind_cons (separator : Char) (piece : List Char) (pieces : List (List Char)) :
    behind separator (piece :: pieces) = separator :: (piece ++ behind separator pieces) := rfl

theorem behind_append (separator : Char) (before after : List (List Char)) :
    behind separator (before ++ after) = behind separator before ++ behind separator after :=
  List.flatMap_append

variable {separator : Char}

theorem exists_split (separator : Char) (cs : List Char) :
    ∃ piece pieces, split separator cs = piece :: pieces :=
  List.exists_cons_of_ne_nil (split_ne_nil separator cs)

theorem split_separator (cs : List Char) :
    split separator (separator :: cs) = [] :: split separator cs := by
  rw [split, if_pos rfl]

theorem split_cons_of_ne {c : Char} (other : c ≠ separator) {cs piece : List Char}
    {pieces : List (List Char)} (tail : split separator cs = piece :: pieces) :
    split separator (c :: cs) = (c :: piece) :: pieces := by
  rw [split, if_neg other, tail]

/-- A text that does not begin with the separator is cut as its rest is, after its first character. -/
theorem exists_split_of_ne {c : Char} (other : c ≠ separator) {cs piece : List Char}
    {pieces : List (List Char)} (cut : split separator (c :: cs) = piece :: pieces) :
    ∃ rest, piece = c :: rest ∧ split separator cs = rest :: pieces := by
  obtain ⟨rest, others, tail⟩ := exists_split separator cs
  rw [split_cons_of_ne other tail] at cut
  obtain ⟨rfl, rfl⟩ := List.cons.inj cut
  exact ⟨rest, rfl, tail⟩

theorem split_append {start : List Char} (clean : separator ∉ start) {cs piece : List Char}
    {pieces : List (List Char)} (tail : split separator cs = piece :: pieces) :
    split separator (start ++ cs) = (start ++ piece) :: pieces := by
  induction start with
  | nil => exact tail
  | cons c rest ih =>
    obtain ⟨other, later⟩ := not_or.mp (mt List.mem_cons.mpr clean)
    exact split_cons_of_ne (Ne.symm other) (ih later)

theorem split_of_not_mem {cs : List Char} (clean : separator ∉ cs) : split separator cs = [cs] := by
  have alone := split_append clean (split.eq_1 separator)
  rwa [List.append_nil] at alone

theorem split_append_behind {piece : List Char} {pieces : List (List Char)}
    (clean : ∀ p ∈ piece :: pieces, separator ∉ p) :
    split separator (piece ++ behind separator pieces) = piece :: pieces := by
  induction pieces generalizing piece with
  | nil => rw [behind_nil, List.append_nil, split_of_not_mem (clean piece List.mem_cons_self)]
  | cons next rest ih =>
    have later := ih fun p member => clean p (List.mem_cons_of_mem _ member)
    have slash : split separator (behind separator (next :: rest)) = [] :: next :: rest := by
      rw [behind_cons, split_separator, later]
    have first := split_append (clean piece List.mem_cons_self) slash
    rwa [List.append_nil] at first

theorem split_spells {cs piece : List Char} {pieces : List (List Char)}
    (cut : split separator cs = piece :: pieces) :
    cs = piece ++ behind separator pieces ∧ ∀ p ∈ piece :: pieces, separator ∉ p := by
  induction cs generalizing piece pieces with
  | nil =>
    obtain ⟨rfl, rfl⟩ := List.cons.inj cut
    simp [behind]
  | cons c rest ih =>
    by_cases same : c = separator
    · obtain ⟨next, more, tail⟩ := exists_split separator rest
      obtain ⟨spelled, clean⟩ := ih tail
      rw [same, split_separator, tail] at cut
      obtain ⟨rfl, rfl⟩ := List.cons.inj cut
      refine ⟨by rw [same, spelled, List.nil_append, behind_cons], ?_⟩
      exact List.forall_mem_cons.mpr ⟨List.not_mem_nil, clean⟩
    · obtain ⟨next, rfl, tail⟩ := exists_split_of_ne same cut
      obtain ⟨spelled, clean⟩ := ih tail
      obtain ⟨first, others⟩ := List.forall_mem_cons.mp clean
      refine ⟨by rw [spelled, List.cons_append], ?_⟩
      exact List.forall_mem_cons.mpr
        ⟨List.not_mem_cons_of_ne_of_not_mem (Ne.symm same) first, others⟩

theorem split_clean (cs : List Char) : ∀ piece ∈ split separator cs, separator ∉ piece := by
  obtain ⟨first, others, cut⟩ := exists_split separator cs
  rw [cut]
  exact (split_spells cut).2

theorem split_eq_cons_iff {cs piece : List Char} {pieces : List (List Char)} :
    split separator cs = piece :: pieces ↔
      cs = piece ++ behind separator pieces ∧ ∀ p ∈ piece :: pieces, separator ∉ p := by
  constructor
  · exact split_spells
  · rintro ⟨rfl, clean⟩
    exact split_append_behind clean

theorem split_append_separator (cs more : List Char) :
    split separator (cs ++ separator :: more) = split separator cs ++ split separator more := by
  induction cs with
  | nil => exact split_separator more
  | cons c rest ih =>
    by_cases same : c = separator
    · rw [same, List.cons_append, split_separator, split_separator, ih, List.cons_append]
    · obtain ⟨piece, pieces, tail⟩ := exists_split separator rest
      rw [tail, List.cons_append] at ih
      rw [List.cons_append, split_cons_of_ne same ih, split_cons_of_ne same tail, List.cons_append]

/-- What is not a separator stands in some piece. -/
theorem mem_iff_exists_piece {c : Char} (other : c ≠ separator) {cs : List Char} :
    c ∈ cs ↔ ∃ piece ∈ split separator cs, c ∈ piece := by
  obtain ⟨first, others, cut⟩ := exists_split separator cs
  obtain ⟨spelled, _⟩ := split_spells cut
  rw [cut, spelled]
  simp [behind, other]

end MapGate.Text
