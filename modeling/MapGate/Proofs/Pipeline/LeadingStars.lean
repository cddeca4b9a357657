import MapGate.Proofs.Pipeline.AtomSequence
import MapGate.Proofs.Pipeline.PatternMeaning
import MapGate.Proofs.Text.Trim

/-!
A pattern with `**/` before it. It matches what the pattern matches as a whole path or behind one of
its slashes, unless the pattern itself is led by one `**`: of two `**` that lead a pattern the first
stands for at least one segment, so that `**/**/a` matches neither `a` nor `x/a`.
-/
namespace MapGate.PathPattern

/-- How many segments `**` lead a pattern. -/
def leadingStars (pattern : List Char) : Nat :=
  ((Text.split '/' pattern).takeWhile (· = ['*', '*'])).length

/-- The pattern matches what follows one of the slashes of a path. -/
def MatchesBehindSlash (p : PathPattern) (path : String) : Prop :=
  ∃ above rest, path = above ++ "/" ++ rest ∧ p.isMatch rest = true

/-- How a pattern may begin, and the atoms that it then has. -/
inductive Begins : List Char → List Atom → Prop where
  | single {cs : List Char} {atoms : List Atom} (single : ¬ ['*', '*'] <+: cs)
      (compiled : laterAtoms cs = .ok atoms) : Begins cs atoms
  | everything : Begins ['*', '*'] [.anything]
  | once {cs : List Char} {atoms : List Atom} (single : ¬ ['*', '*'] <+: cs)
      (compiled : laterAtoms cs = .ok atoms) : Begins ('*' :: '*' :: '/' :: cs) (.parents :: atoms)
  | twice {cs : List Char} {atoms : List Atom} (ends : endsSegment cs = true)
      (compiled : laterAtoms cs = .ok atoms) :
      Begins ('*' :: '*' :: '/' :: '*' :: '*' :: cs) (.ancestor :: .subtree :: atoms)

theorem map_eq_ok_iff {ε α β : Type} {result : Except ε α} {f : α → β} {b : β} :
    result.map f = .ok b ↔ ∃ a, result = .ok a ∧ f a = b := by
  cases result <;> simp [Except.map]

theorem begins_of_compiled {cs : List Char} {atoms : List Atom}
    (compiled : atomsOf cs = .ok atoms) : Begins cs atoms := by
  unfold atomsOf at compiled
  split at compiled
  case h_1 =>
    obtain rfl := Except.ok.inj compiled
    exact .everything
  case h_2 rest =>
    split at compiled
    case isTrue ends =>
      obtain ⟨later, found, rfl⟩ := map_eq_ok_iff.mp compiled
      exact .twice ends found
    case isFalse => cases compiled
  case h_3 rest alone =>
    obtain ⟨later, found, rfl⟩ := map_eq_ok_iff.mp compiled
    refine .once ?_ found
    rintro ⟨more, rfl⟩
    exact alone more rfl
  case h_4 =>
    refine .single ?_ compiled
    -- two stars that are no segment of their own do not compile
    rintro ⟨more, rfl⟩
    exact nomatch compiled

theorem atomsOf_single {cs : List Char} (single : ¬ ['*', '*'] <+: cs) :
    atomsOf ('*' :: '*' :: '/' :: cs) = (laterAtoms cs).map (.parents :: ·) := by
  rw [atomsOf]
  rintro rest rfl
  exact single ⟨rest, rfl⟩

theorem atomsOf_stars {cs : List Char} (ends : endsSegment cs = true) :
    atomsOf ('*' :: '*' :: '/' :: '*' :: '*' :: cs) =
      (laterAtoms ('/' :: '*' :: '*' :: cs)).map (.ancestor :: ·) := by
  rw [atomsOf, if_pos ends, laterAtoms, if_pos ends]
  cases laterAtoms cs <;> rfl

theorem laterAtoms_stars {cs : List Char} (ends : endsSegment cs = true) :
    laterAtoms ('/' :: '*' :: '*' :: cs) = (laterAtoms cs).map (.subtree :: ·) := by
  rw [laterAtoms, if_pos ends]

theorem laterAtoms_slash {cs : List Char} (single : ¬ ['*', '*'] <+: cs) :
    laterAtoms ('/' :: cs) = (laterAtoms cs).map (.char '/' :: ·) := by
  rw [laterAtoms]
  · rintro rest _ rfl
    exact single ⟨rest, rfl⟩
  all_goals nofun

theorem leadingStars_single {cs : List Char} (single : ¬ ['*', '*'] <+: cs) :
    leadingStars cs = 0 := by
  obtain ⟨p, ps, cut⟩ := Text.exists_split '/' cs
  have other : p ≠ ['*', '*'] := by
    rintro rfl
    exact single (prefix_of_split cut (List.prefix_refl _))
  simp [leadingStars, cut, other]

theorem leadingStars_stars (cs : List Char) :
    leadingStars ('*' :: '*' :: '/' :: cs) = leadingStars cs + 1 := by
  have cut : Text.split '/' ('*' :: '*' :: '/' :: cs) = ['*', '*'] :: Text.split '/' cs :=
    split_stars (Text.split_separator cs)
  simp [leadingStars, cut]

theorem leadingStars_ends {cs : List Char} (ends : endsSegment cs = true) :
    0 < leadingStars ('*' :: '*' :: cs) := by
  obtain ⟨p, ps, cut⟩ := Text.exists_split '/' cs
  obtain rfl := (endsSegment_iff cut).mp ends
  simp [leadingStars, split_stars cut]

variable {k : List Atom} {path : List Char}

theorem accepts_subtree_twice_iff :
    accepts (.subtree :: .subtree :: k) path = true ↔ accepts (.subtree :: k) path = true := by
  rw [accepts_subtree_iff]
  refine ⟨?_, .inl⟩
  rintro (accepted | ⟨above, tail, rfl, line, accepted⟩)
  · exact accepted
  · obtain accepted | ⟨below, rest, rfl, clean, accepted⟩ := accepts_subtree_iff.mp accepted
    · exact accepts_subtree_iff.mpr (.inr ⟨above, tail, rfl, line, accepted⟩)
    · have both : '\n' ∉ above ++ '/' :: below := by simp [line, clean]
      exact accepts_subtree_iff.mpr (.inr ⟨above ++ '/' :: below, rest, by simp, both, accepted⟩)

theorem accepts_ancestor_congr {k' : List Atom}
    (same : ∀ rest, accepts k rest = true ↔ accepts k' rest = true) :
    accepts (.ancestor :: k) path = true ↔ accepts (.ancestor :: k') path = true := by
  simp only [accepts_ancestor_iff, same]

/-- A second atom for the segments above adds nothing on one line. -/
theorem accepts_ancestor_twice (line : '\n' ∉ path)
    (accepted : accepts (.ancestor :: .ancestor :: k) path = true) :
    accepts (.ancestor :: k) path = true := by
  obtain ⟨above, tail, rfl, _, accepted⟩ := accepts_ancestor_iff.mp accepted
  obtain ⟨below, rest, rfl, _, accepted⟩ := accepts_ancestor_iff.mp accepted
  have both : '\n' ∉ above ++ '/' :: below := fun member => line (by grind)
  exact accepts_ancestor_iff.mpr ⟨above ++ '/' :: below, rest, by simp, both, accepted⟩

/-- The atoms of a pattern with `**/` before it: those of the pattern behind the segments above, if
any, or, where the pattern is led by one `**`, those of the pattern with a slash before it behind at
least one segment. -/
theorem atomsOf_deeper {cs : List Char} {atoms : List Atom} (begins : Begins cs atoms) :
    (leadingStars cs ≠ 1 → ∃ deeper, atomsOf ('*' :: '*' :: '/' :: cs) = .ok deeper ∧
      ∀ path, '\n' ∉ path →
        (accepts deeper path = true ↔ accepts (.parents :: atoms) path = true)) ∧
    (leadingStars cs = 1 → ∃ rooted, atomsOf ('/' :: cs) = .ok rooted ∧
      atomsOf ('*' :: '*' :: '/' :: cs) = .ok (.ancestor :: rooted)) := by
  cases begins with
  | single single compiled =>
    rw [leadingStars_single single, atomsOf_single single, compiled]
    exact ⟨fun _ => ⟨_, rfl, fun _ _ => Iff.rfl⟩, nofun⟩
  | everything =>
    refine ⟨fun other => absurd rfl other, fun _ => ⟨[.subtree], rfl, rfl⟩⟩
  | once single compiled =>
    rename_i cs atoms
    have ends : endsSegment ('/' :: cs) = true := rfl
    have rooted : laterAtoms ('/' :: '*' :: '*' :: '/' :: cs) =
        .ok (.subtree :: .char '/' :: atoms) := by
      rw [laterAtoms_stars ends, laterAtoms_slash single, compiled]
      rfl
    rw [leadingStars_stars, leadingStars_single single, atomsOf_stars ends, rooted]
    exact ⟨fun other => absurd rfl other, fun _ => ⟨_, rooted, rfl⟩⟩
  | twice ends compiled =>
    rename_i cs atoms
    have many : leadingStars ('*' :: '*' :: '/' :: '*' :: '*' :: cs) ≠ 1 := by
      have more := leadingStars_ends ends
      rw [leadingStars_stars]
      omega
    refine ⟨fun _ => ⟨.ancestor :: .subtree :: .subtree :: atoms, ?_, ?_⟩,
      fun one => absurd one many⟩
    · rw [atomsOf_stars rfl, laterAtoms_stars rfl, laterAtoms_stars ends, compiled]
      rfl
    · intro path line
      rw [accepts_parents_iff, accepts_ancestor_congr fun _ => accepts_subtree_twice_iff]
      exact ⟨.inl, fun either => either.elim id (accepts_ancestor_twice line)⟩

theorem compile_of_bare {pattern : String} {p : PathPattern}
    (bare : Text.trim pattern.toList = pattern.toList) : compile pattern = .ok p ↔
      pattern.toList ≠ [] ∧ ∃ atoms, atomsOf pattern.toList = .ok atoms ∧ p = ⟨pattern, atoms⟩ := by
  unfold compile compileChars
  rw [bare]
  dsimp only
  rw [String.ofList_toList]
  cases pattern.toList with
  | nil => simp [Except.map]
  | cons c cs =>
    rw [List.isEmpty_cons, if_neg Bool.false_ne_true, map_eq_ok_iff]
    simp [eq_comm]

theorem accepts_ancestor_behind_slash (p : PathPattern) {path : String}
    (line : '\n' ∉ path.toList) :
    accepts (.ancestor :: p.atoms) path.toList = true ↔ p.MatchesBehindSlash path := by
  rw [accepts_ancestor_iff, MatchesBehindSlash]
  refine Iff.trans ?_ (@exists_cut_iff path fun _ rest => accepts p.atoms rest = true)
  constructor
  · rintro ⟨above, rest, spelled, _, accepted⟩
    exact ⟨above, rest, spelled, accepted⟩
  · rintro ⟨above, rest, spelled, accepted⟩
    rw [spelled] at line
    exact ⟨above, rest, spelled, mt (List.mem_append_left _) line, accepted⟩

/-- With `**/` before it a trimmed pattern matches what it matched before and what has that behind a
slash, unless one `**` leads it: then that `**` has to have a slash of its own. -/
theorem stars_match_behind_slash {pattern : String} {p : PathPattern}
    (bare : Text.trim pattern.toList = pattern.toList) (compiled : compile pattern = .ok p) :
    ∃ deeper, compile ("**/" ++ pattern) = .ok deeper ∧
      (leadingStars pattern.toList ≠ 1 → ∀ path, '\n' ∉ path.toList →
        (deeper.isMatch path = true ↔ p.isMatch path = true ∨ p.MatchesBehindSlash path)) ∧
      (leadingStars pattern.toList = 1 → ∃ rooted, compile ("/" ++ pattern) = .ok rooted ∧
        ∀ path, '\n' ∉ path.toList →
          (deeper.isMatch path = true ↔ rooted.MatchesBehindSlash path)) := by
  obtain ⟨present, atoms, found, rfl⟩ := (compile_of_bare bare).mp compiled
  have slashed : ("/" ++ pattern).toList = '/' :: pattern.toList := by
    rw [String.toList_append]
    rfl
  have starred : ("**/" ++ pattern).toList = '*' :: '*' :: '/' :: pattern.toList := by
    rw [String.toList_append]
    rfl
  have bareSlashed := Text.trim_cons (c := '/') rfl present bare
  have bareStarred := Text.trim_cons (c := '*') rfl (by simp) <|
    Text.trim_cons (c := '*') rfl (by simp) bareSlashed
  rw [← slashed] at bareSlashed
  rw [← starred] at bareStarred
  obtain ⟨other, one⟩ := atomsOf_deeper (begins_of_compiled found)
  by_cases led : leadingStars pattern.toList = 1
  · obtain ⟨rooted, root, deeper⟩ := one led
    rw [← slashed] at root
    rw [← starred] at deeper
    refine ⟨_, (compile_of_bare bareStarred).mpr ⟨by simp [starred], _, deeper, rfl⟩,
      fun never => absurd led never, fun _ => ?_⟩
    refine ⟨_, (compile_of_bare bareSlashed).mpr ⟨by simp [slashed], _, root, rfl⟩, ?_⟩
    exact fun path line => accepts_ancestor_behind_slash ⟨"/" ++ pattern, rooted⟩ line
  · obtain ⟨deeper, result, same⟩ := other led
    rw [← starred] at result
    refine ⟨_, (compile_of_bare bareStarred).mpr ⟨by simp [starred], _, result, rfl⟩,
      fun _ path line => ?_, fun never => absurd never led⟩
    rw [isMatch, same _ line, accepts_parents_iff]
    exact or_congr_right (accepts_ancestor_behind_slash ⟨pattern, atoms⟩ line)

/-- A relative pattern with a `**` of its own, behind the second slash of a path. -/
theorem stars_match_behind_slash_relative :
    let pattern := "a?/**"
    let p : PathPattern := ⟨pattern, [.char 'a', .one, .subtree]⟩
    Text.trim pattern.toList = pattern.toList ∧ compile pattern = .ok p ∧
      leadingStars pattern.toList ≠ 1 ∧ '\n' ∉ "/x/ab/c".toList ∧
      ∃ deeper, compile ("**/" ++ pattern) = .ok deeper ∧ deeper.isMatch "ab" = true ∧
        deeper.isMatch "/x/ab/c" = true := by
  intro pattern p
  have bare : Text.trim pattern.toList = pattern.toList := by decide +kernel
  have compiled : compile pattern = .ok p := by decide +kernel
  have other : leadingStars pattern.toList ≠ 1 := by decide +kernel
  have line : '\n' ∉ "/x/ab/c".toList := by decide +kernel
  obtain ⟨deeper, extended, matched, _⟩ := stars_match_behind_slash bare compiled
  refine ⟨bare, compiled, other, line, deeper, extended, ?_, ?_⟩
  · exact (matched other "ab" (by decide +kernel)).mpr (.inl (by decide +kernel))
  · exact (matched other _ line).mpr (.inr ⟨"/x", "ab/c", by decide +kernel, by decide +kernel⟩)

/-- `**` matches a path without a slash, and `**/**` does not. -/
theorem second_star_needs_slash : ∃ p deeper, compile "**" = .ok p ∧
    compile ("**/" ++ "**") = .ok deeper ∧ '\n' ∉ "a".toList ∧ p.isMatch "a" = true ∧
    deeper.isMatch "a" = false := by
  refine ⟨⟨"**", [.anything]⟩, ⟨"**/**", [.ancestor, .subtree]⟩, ?_⟩
  decide +kernel

end MapGate.PathPattern
