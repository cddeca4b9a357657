import MapGate.Proofs.Pipeline.SegmentMatch

/-!
What atoms accept one after another. Each atom stands for some parts of paths, whatever comes behind
it, and a list of atoms accepts the paths made up of such parts in order.
-/
namespace MapGate.PathPattern

/-- The parts of a path that an atom stands for. -/
def Atom.StandsFor : Atom → List Char → Prop
  | .char c, part => part = [c]
  | .one, part => ∃ c, part = [c] ∧ c ≠ '/'
  | .run, part => '/' ∉ part
  | .subtree, part => part = [] ∨ ∃ below, part = '/' :: below ∧ '\n' ∉ below
  | .parents, part => part = [] ∨ ∃ above, part = above ++ ['/'] ∧ '\n' ∉ above
  | .ancestor, part => ∃ above, part = above ++ ['/'] ∧ '\n' ∉ above
  | .anything, part => '\n' ∉ part

variable {k : List Atom} {path : List Char}

theorem accepts_anything_iff : accepts (.anything :: k) path = true ↔
    ∃ skipped rest, path = skipped ++ rest ∧ '\n' ∉ skipped ∧ accepts k rest = true :=
  afterAny_iff

theorem accepts_ancestor_iff : accepts (.ancestor :: k) path = true ↔
    ∃ above rest, path = above ++ '/' :: rest ∧ '\n' ∉ above ∧ accepts k rest = true := by
  refine afterAny_iff.trans ⟨?_, ?_⟩
  · rintro ⟨above, tail, rfl, line, accepted⟩
    obtain ⟨rest, rfl, accepted⟩ := afterSlash_iff.mp accepted
    exact ⟨above, rest, rfl, line, accepted⟩
  · rintro ⟨above, rest, rfl, line, accepted⟩
    exact ⟨above, '/' :: rest, rfl, line, afterSlash_iff.mpr ⟨rest, rfl, accepted⟩⟩

theorem accepts_parents_iff : accepts (.parents :: k) path = true ↔
    accepts k path = true ∨ accepts (.ancestor :: k) path = true :=
  Bool.or_eq_true_iff

theorem accepts_cons_iff {a : Atom} : accepts (a :: k) path = true ↔
    ∃ part rest, path = part ++ rest ∧ a.StandsFor part ∧ accepts k rest = true := by
  cases a with
  | char c =>
    refine accepts_char_iff.trans ⟨?_, ?_⟩
    · rintro ⟨rest, rfl, accepted⟩
      exact ⟨[c], rest, rfl, rfl, accepted⟩
    · rintro ⟨_, rest, rfl, rfl, accepted⟩
      exact ⟨rest, rfl, accepted⟩
  | one =>
    refine accepts_one_iff.trans ⟨?_, ?_⟩
    · rintro ⟨c, rest, rfl, free, accepted⟩
      exact ⟨[c], rest, rfl, ⟨c, rfl, free⟩, accepted⟩
    · rintro ⟨_, rest, rfl, ⟨c, rfl, free⟩, accepted⟩
      exact ⟨c, rest, rfl, free, accepted⟩
  | run => exact accepts_run_iff
  | subtree =>
    refine accepts_subtree_iff.trans ⟨?_, ?_⟩
    · rintro (accepted | ⟨below, rest, rfl, line, accepted⟩)
      · exact ⟨[], path, rfl, .inl rfl, accepted⟩
      · exact ⟨'/' :: below, rest, rfl, .inr ⟨below, rfl, line⟩, accepted⟩
    · rintro ⟨_, rest, rfl, rfl | ⟨below, rfl, line⟩, accepted⟩
      · exact .inl accepted
      · exact .inr ⟨below, rest, rfl, line, accepted⟩
  | parents =>
    rw [accepts_parents_iff, accepts_ancestor_iff]
    constructor
    · rintro (accepted | ⟨above, rest, rfl, line, accepted⟩)
      · exact ⟨[], path, rfl, .inl rfl, accepted⟩
      · exact ⟨above ++ ['/'], rest, by simp, .inr ⟨above, rfl, line⟩, accepted⟩
    · rintro ⟨_, rest, rfl, rfl | ⟨above, rfl, line⟩, accepted⟩
      · exact .inl accepted
      · exact .inr ⟨above, rest, by simp, line, accepted⟩
  | ancestor =>
    refine accepts_ancestor_iff.trans ⟨?_, ?_⟩
    · rintro ⟨above, rest, rfl, line, accepted⟩
      exact ⟨above ++ ['/'], rest, by simp, ⟨above, rfl, line⟩, accepted⟩
    · rintro ⟨_, rest, rfl, ⟨above, rfl, line⟩, accepted⟩
      exact ⟨above, rest, by simp, line, accepted⟩
  | anything => exact accepts_anything_iff

/-- Atoms one after another accept a path in two parts, one for those before and one for those
behind. -/
theorem accepts_append_iff {before : List Atom} : accepts (before ++ k) path = true ↔
    ∃ start rest, path = start ++ rest ∧ accepts before start = true ∧ accepts k rest = true := by
  induction before generalizing path with
  | nil =>
    constructor
    · intro accepted
      exact ⟨[], path, rfl, rfl, accepted⟩
    · rintro ⟨start, rest, rfl, empty, accepted⟩
      obtain rfl := accepts_nil_iff.mp empty
      exact accepted
  | cons a before ih =>
    rw [List.cons_append, accepts_cons_iff]
    constructor
    · rintro ⟨part, tail, rfl, stands, accepted⟩
      obtain ⟨start, rest, rfl, first, accepted⟩ := ih.mp accepted
      have both := accepts_cons_iff.mpr ⟨part, start, rfl, stands, first⟩
      exact ⟨part ++ start, rest, (List.append_assoc ..).symm, both, accepted⟩
    · rintro ⟨_, rest, rfl, both, accepted⟩
      obtain ⟨part, start, rfl, stands, first⟩ := accepts_cons_iff.mp both
      have tail := ih.mpr ⟨start, rest, rfl, first, accepted⟩
      exact ⟨part, start ++ rest, List.append_assoc .., stands, tail⟩

/-- The cuts of a path at a slash, as lists of characters and as texts. -/
theorem exists_cut_iff {path : String} {holds : List Char → List Char → Prop} :
    (∃ above rest, path.toList = above ++ '/' :: rest ∧ holds above rest) ↔
      ∃ above rest : String, path = above ++ "/" ++ rest ∧ holds above.toList rest.toList := by
  constructor
  · rintro ⟨above, rest, spelled, held⟩
    refine ⟨String.ofList above, String.ofList rest, ?_, ?_⟩
    · apply String.toList_injective
      simpa using spelled
    · rwa [String.toList_ofList, String.toList_ofList]
  · rintro ⟨above, rest, rfl, held⟩
    exact ⟨above.toList, rest.toList, by simp, held⟩

end MapGate.PathPattern
