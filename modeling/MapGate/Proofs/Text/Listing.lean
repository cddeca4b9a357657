import MapGate.Proofs.Text.Pieces
import MapGate.Proofs.Text.Trim

/-!
Lists written as text. The items stand between commas, with blanks around them as anyone likes, and
blank pieces between them do not count. Reading gives back the items exactly.
-/
namespace MapGate.Text

/-- A text that can be an item. -/
structure IsItem (cs : List Char) : Prop where
  present : cs ≠ []
  bare : trim cs = cs
  clean : ',' ∉ cs

/-- Pieces that hold some items in order, each between blanks, and blank pieces besides. -/
inductive Holds : (pieces items : List (List Char)) → Prop where
  | nil : Holds [] []
  | blank {piece : List Char} {pieces items : List (List Char)}
      (empty : ∀ c ∈ piece, isBlank c = true) (rest : Holds pieces items) :
      Holds (piece :: pieces) items
  | item {before item after : List Char} {pieces items : List (List Char)}
      (front : ∀ c ∈ before, isBlank c = true) (back : ∀ c ∈ after, isBlank c = true)
      (rest : Holds pieces items) : Holds ((before ++ item ++ after) :: pieces) (item :: items)

/-- The items as a text, with commas between the pieces that hold them. -/
def Lists (items : List (List Char)) (cs : List Char) : Prop :=
  ∃ pieces, Holds pieces items ∧ cs = [','].intercalate pieces

theorem intercalate_cons (separator : Char) (piece : List Char) (pieces : List (List Char)) :
    [separator].intercalate (piece :: pieces) = piece ++ behind separator pieces := by
  induction pieces generalizing piece with
  | nil => rw [List.intercalate_singleton, behind_nil, List.append_nil]
  | cons next rest ih =>
    rw [List.intercalate_cons_cons, ih, behind_cons, List.append_assoc, List.singleton_append]

theorem exists_trimmed (cs : List Char) : ∃ before after, cs = before ++ trim cs ++ after ∧
    (∀ c ∈ before, isBlank c = true) ∧ ∀ c ∈ after, isBlank c = true := by
  let body := trimStart cs
  refine ⟨cs.takeWhile isBlank, (body.reverse.takeWhile isBlank).reverse, ?_, ?_, ?_⟩
  · have back : trimEnd body ++ (body.reverse.takeWhile isBlank).reverse = body := by
      rw [trimEnd, ← List.reverse_append, List.takeWhile_append_dropWhile, List.reverse_reverse]
    rw [trim, List.append_assoc, back]
    exact (List.takeWhile_append_dropWhile).symm
  · exact fun c member => List.mem_takeWhile_imp member
  · intro c member
    exact List.mem_takeWhile_imp (List.mem_reverse.mp member)

theorem trimStart_append {before : List Char} (front : ∀ c ∈ before, isBlank c = true)
    (cs : List Char) : trimStart (before ++ cs) = trimStart cs :=
  List.dropWhile_append_of_pos front

theorem trimEnd_append {after : List Char} (back : ∀ c ∈ after, isBlank c = true)
    (cs : List Char) : trimEnd (cs ++ after) = trimEnd cs := by
  rw [trimEnd, List.reverse_append, List.dropWhile_append_of_pos, ← trimEnd]
  exact fun c member => back c (List.mem_reverse.mp member)

theorem trim_padded {before item after : List Char} (bare : trim item = item)
    (front : ∀ c ∈ before, isBlank c = true) (back : ∀ c ∈ after, isBlank c = true) :
    trim (before ++ item ++ after) = item := by
  rw [trim, List.append_assoc, trimStart_append front]
  cases item with
  | nil => rw [List.nil_append, trimStart, List.dropWhile_eq_nil_iff.mpr back]; rfl
  | cons c rest =>
    obtain ⟨first, last⟩ := trim_eq_self_iff.mp bare
    have begins : trimStart (c :: rest ++ after) = c :: rest ++ after :=
      trimStart_eq_self_iff.mpr (by simpa using first)
    rw [begins, trimEnd_append back, trimEnd_eq_self_iff.mpr last]

theorem holds_of_trimmed (pieces : List (List Char)) :
    Holds pieces ((pieces.map trim).filter fun piece => !piece.isEmpty) := by
  induction pieces with
  | nil => exact .nil
  | cons piece rest ih =>
    by_cases blank : trim piece = []
    · have empty : ∀ c ∈ piece, isBlank c = true := trim_eq_nil_iff.mp blank
      simpa [blank] using Holds.blank empty ih
    · obtain ⟨before, after, padded, front, back⟩ := exists_trimmed piece
      have held : Holds ((before ++ trim piece ++ after) :: rest) (trim piece :: _) :=
        .item front back ih
      rw [← padded] at held
      simpa [blank] using held

theorem trimmed_of_holds {pieces items : List (List Char)} (held : Holds pieces items)
    (each : ∀ item ∈ items, IsItem item) :
    ((pieces.map trim).filter fun piece => !piece.isEmpty) = items := by
  induction held with
  | nil => rfl
  | blank empty _ ih => simpa [trim_eq_nil_iff.mpr empty] using ih each
  | item front back _ ih =>
    obtain ⟨own, others⟩ := List.forall_mem_cons.mp each
    rw [List.map_cons, trim_padded own.bare front back, List.filter_cons_of_pos, ih others]
    simpa using own.present

/-- Commas come from the joining only, so cutting at them gives back the pieces. -/
theorem Holds.clean {pieces items : List (List Char)} (held : Holds pieces items)
    (each : ∀ item ∈ items, IsItem item) : ∀ piece ∈ pieces, ',' ∉ piece := by
  have solid {cs : List Char} (blank : ∀ c ∈ cs, isBlank c = true) : ',' ∉ cs :=
    fun comma => nomatch blank ',' comma
  induction held with
  | nil => exact nofun
  | blank empty _ ih => exact List.forall_mem_cons.mpr ⟨solid empty, ih each⟩
  | item front back _ ih =>
    obtain ⟨own, others⟩ := List.forall_mem_cons.mp each
    refine List.forall_mem_cons.mpr ⟨?_, ih others⟩
    simp [solid front, solid back, own.clean]

theorem commaItems_isItem {cs item : List Char} (member : item ∈ commaItems cs) : IsItem item := by
  obtain ⟨listed, present⟩ := List.mem_filter.mp member
  obtain ⟨piece, cut, rfl⟩ := List.mem_map.mp listed
  obtain ⟨before, after, padded, _⟩ := exists_trimmed piece
  have clean := split_clean cs piece cut
  rw [padded, List.mem_append, List.mem_append] at clean
  exact ⟨by simpa using present, trim_trim piece, fun comma => clean (.inl (.inr comma))⟩

/-- The items of a text are the only ones that it can be a list of. -/
theorem commaItems_eq_iff {cs : List Char} {items : List (List Char)} :
    commaItems cs = items ↔ (∀ item ∈ items, IsItem item) ∧ Lists items cs := by
  constructor
  · rintro rfl
    obtain ⟨first, others, cut⟩ := exists_split ',' cs
    refine ⟨fun item => commaItems_isItem, split ',' cs, holds_of_trimmed _, ?_⟩
    rw [cut, intercalate_cons]
    exact (split_spells cut).1
  · rintro ⟨each, pieces, held, rfl⟩
    cases pieces with
    | nil => cases held; rfl
    | cons piece pieces =>
      rw [commaItems, intercalate_cons, split_append_behind (held.clean each)]
      exact trimmed_of_holds held each

example : commaItems " a ,, b\t,".toList = [['a'], ['b']] := by decide

end MapGate.Text
