import MapGate.Proofs.Pipeline.SegmentMatch

/-!
The meaning of path patterns that begin with a slash. Such a pattern compiles when every segment
with two adjacent stars is `**`, and to the atoms of its segments one after another. A path on one
line is then matched exactly if its segments are what those of the pattern stand for.
-/
namespace MapGate.PathPattern

/-- A segment with two adjacent stars is nothing but these. -/
def WholeStars (p : List Char) : Prop := ['*', '*'] <:+: p → p = ['*', '*']

theorem double_cons_iff {c : Char} {p : List Char} (alone : ¬ ['*', '*'] <+: c :: p) :
    ['*', '*'] <:+: c :: p ↔ ['*', '*'] <:+: p :=
  List.infix_cons_iff.trans (or_iff_right alone)

/-- What the first segment begins with, the text begins with. -/
theorem prefix_of_split {cs p start : List Char} {ps : List (List Char)}
    (cut : Text.split '/' cs = p :: ps) (early : start <+: p) : start <+: cs := by
  obtain ⟨rfl, _⟩ := Text.split_spells cut
  exact early.trans (List.prefix_append _ _)

theorem endsSegment_iff {cs p : List Char} {ps : List (List Char)}
    (cut : Text.split '/' cs = p :: ps) : endsSegment cs = true ↔ p = [] := by
  obtain ⟨rfl, clean⟩ := Text.split_spells cut
  cases p with
  | nil => cases ps <;> simp [endsSegment, Text.behind]
  | cons c rest =>
    have slash := (not_or.mp (mt List.mem_cons.mpr (clean _ List.mem_cons_self))).1
    simpa [endsSegment] using Ne.symm slash

/-- One atom before what the rest of a pattern compiles to. -/
theorem map_cons_eq_ok_iff {later : Except PatternError (List Atom)} {a : Atom}
    {tail atoms : List Atom} {P Q : Prop} (rest : ∀ found, later = .ok found ↔ P ∧ found = tail)
    (same : P ↔ Q) : later.map (a :: ·) = .ok atoms ↔ Q ∧ atoms = a :: tail := by
  rw [← same]
  cases later with
  | error e =>
    have bad : ¬ P := fun good => nomatch (rest tail).mpr ⟨good, rfl⟩
    exact iff_of_false nofun fun both => bad both.1
  | ok found =>
    obtain ⟨good, rfl⟩ := (rest found).mp rfl
    simp [Except.map, good, eq_comm]

/-- The segments compile that come to these, and to these atoms. -/
def Compiles (result : Except PatternError (List Atom)) (p : List Char) (ps : List (List Char)) :
    Prop :=
  ∀ atoms, result = .ok atoms ↔
    (¬ ['*', '*'] <:+: p ∧ ∀ q ∈ ps, WholeStars q) ∧
      atoms = p.map atomOf ++ ps.flatMap segmentAtoms

theorem compiles_cons {c : Char} {rest p : List Char} {ps : List (List Char)} (other : c ≠ '/')
    (alone : ¬ ['*', '*'] <+: c :: rest) (tail : Text.split '/' rest = p :: ps)
    (later : Compiles (laterAtoms rest) p ps) :
    Compiles ((laterAtoms rest).map (atomOf c :: ·)) (c :: p) ps := by
  intro atoms
  have single : ¬ ['*', '*'] <+: c :: p :=
    fun early => alone (prefix_of_split (Text.split_cons_of_ne other tail) early)
  exact map_cons_eq_ok_iff later (and_congr_left' (not_congr (double_cons_iff single)).symm)

theorem compiles_slash {rest p : List Char} {ps : List (List Char)}
    (alone : ¬ ['*', '*'] <+: rest) (tail : Text.split '/' rest = p :: ps)
    (later : Compiles (laterAtoms rest) p ps) :
    Compiles ((laterAtoms rest).map (.char '/' :: ·)) [] (p :: ps) := by
  intro atoms
  have single : p ≠ ['*', '*'] := by
    rintro rfl
    exact alone (prefix_of_split tail (List.prefix_refl _))
  have whole : ¬ ['*', '*'] <:+: p ↔ WholeStars p :=
    ⟨fun none double => absurd double none, fun whole double => single (whole double)⟩
  rw [List.flatMap_cons, segmentAtoms, if_neg single]
  refine map_cons_eq_ok_iff later ?_
  rw [List.forall_mem_cons, whole]
  simp

theorem compiles_subtree {rest : List Char} {ps : List (List Char)}
    (later : Compiles (laterAtoms rest) [] ps) :
    Compiles ((laterAtoms rest).map (.subtree :: ·)) [] (['*', '*'] :: ps) := by
  intro atoms
  refine map_cons_eq_ok_iff later ?_
  rw [List.forall_mem_cons, and_iff_right (show WholeStars ['*', '*'] from fun _ => rfl)]

theorem not_leading_double {c : Char} (star : c ≠ '*') (rest : List Char) :
    ¬ ['*', '*'] <+: c :: rest := by
  rintro ⟨more, whole⟩
  exact star (List.cons.inj whole).1.symm

theorem split_stars {rest p : List Char} {ps : List (List Char)}
    (tail : Text.split '/' rest = p :: ps) :
    Text.split '/' ('*' :: '*' :: rest) = ('*' :: '*' :: p) :: ps :=
  Text.split_cons_of_ne (by decide) (Text.split_cons_of_ne (by decide) tail)

/-- Compiling is compiling segment by segment. -/
theorem laterAtoms_compiles {cs p : List Char} {ps : List (List Char)}
    (cut : Text.split '/' cs = p :: ps) : Compiles (laterAtoms cs) p ps := by
  fun_induction laterAtoms cs generalizing p ps with
  | case1 =>
    obtain ⟨rfl, rfl⟩ := List.cons.inj cut
    intro atoms
    constructor
    · rintro ⟨⟩
      simp
    · rintro ⟨_, rfl⟩
      rfl
  | case2 rest ends ih =>
    obtain ⟨q, qs, tail⟩ := Text.exists_split '/' rest
    obtain rfl := (endsSegment_iff tail).mp ends
    rw [Text.split_separator, split_stars tail] at cut
    obtain ⟨rfl, rfl⟩ := List.cons.inj cut
    exact compiles_subtree (ih tail)
  | case3 rest inside =>
    obtain ⟨q, qs, tail⟩ := Text.exists_split '/' rest
    rw [Text.split_separator, split_stars tail] at cut
    obtain ⟨rfl, rfl⟩ := List.cons.inj cut
    intro atoms
    refine iff_of_false nofun ?_
    rintro ⟨⟨_, whole⟩, _⟩
    have only := whole _ List.mem_cons_self ⟨[], q, rfl⟩
    exact inside ((endsSegment_iff tail).mpr (by simpa using only))
  | case4 rest =>
    obtain ⟨q, qs, tail⟩ := Text.exists_split '/' rest
    rw [split_stars tail] at cut
    obtain ⟨rfl, rfl⟩ := List.cons.inj cut
    intro atoms
    refine iff_of_false nofun ?_
    rintro ⟨⟨single, _⟩, _⟩
    exact single ⟨[], q, rfl⟩
  | case5 rest single ih =>
    obtain ⟨q, rfl, tail⟩ := Text.exists_split_of_ne (by decide) cut
    have alone : ¬ ['*', '*'] <+: '*' :: rest := by
      rintro ⟨more, whole⟩
      exact single more (List.cons.inj whole).2.symm
    exact compiles_cons (by decide) alone tail (ih tail)
  | case6 rest ih =>
    obtain ⟨q, rfl, tail⟩ := Text.exists_split_of_ne (by decide) cut
    have mark : '?' ≠ '*' := by decide
    exact compiles_cons (by decide) (not_leading_double mark rest) tail (ih tail)
  | case7 c rest many double star mark ih =>
    by_cases slash : c = '/'
    · subst slash
      obtain ⟨q, qs, tail⟩ := Text.exists_split '/' rest
      rw [Text.split_separator, tail] at cut
      obtain ⟨rfl, rfl⟩ := List.cons.inj cut
      have alone : ¬ ['*', '*'] <+: rest := by
        rintro ⟨more, whole⟩
        exact many more rfl whole.symm
      exact compiles_slash alone tail (ih tail)
    · obtain ⟨q, rfl, tail⟩ := Text.exists_split_of_ne slash cut
      rw [← atomOf_literal star mark]
      exact compiles_cons slash (not_leading_double star rest) tail (ih tail)

theorem trim_slash (cs : List Char) : ∃ rest, Text.trim ('/' :: cs) = '/' :: rest := by
  have start : Text.trimStart ('/' :: cs) = '/' :: cs :=
    List.dropWhile_cons_of_neg (by decide)
  have slash : ['/'].dropWhile Text.isBlank = ['/'] := List.dropWhile_cons_of_neg (by decide)
  rw [Text.trim, start, Text.trimEnd, List.reverse_cons, List.dropWhile_append, slash]
  split
  · exact ⟨[], rfl⟩
  · exact ⟨_, List.reverse_append⟩

/-- A pattern whose trimmed text begins with a slash compiles to the atoms of its segments. -/
theorem compile_eq_ok_iff {pattern : String} {rest : List Char}
    (slash : Text.trim pattern.toList = '/' :: rest) (p : PathPattern) :
    compile pattern = .ok p ↔
      (∀ segment ∈ Text.split '/' rest, WholeStars segment) ∧
        p = ⟨String.ofList ('/' :: rest), (Text.split '/' rest).flatMap segmentAtoms⟩ := by
  have compiles := laterAtoms_compiles (@Text.split_separator '/' rest)
  have result : compile pattern =
      (laterAtoms ('/' :: rest)).map fun atoms => ⟨String.ofList ('/' :: rest), atoms⟩ := by
    simp only [compile, slash]
    rfl
  rw [result]
  cases found : laterAtoms ('/' :: rest) with
  | error e =>
    refine iff_of_false nofun ?_
    rintro ⟨whole, _⟩
    have accepted := (compiles _).mpr ⟨⟨by simp, whole⟩, rfl⟩
    exact nomatch found.symm.trans accepted
  | ok atoms =>
    obtain ⟨⟨_, whole⟩, rfl⟩ := (compiles atoms).mp found
    rw [and_iff_right whole, Except.map, Except.ok.injEq]
    exact eq_comm

/-- A pattern that begins with a slash compiles exactly if every segment with two adjacent stars is
`**`, and matches a path on one line exactly if its segments stand for those of the path. -/
theorem compile_matches_segments {pattern : String} (slash : pattern.toList.head? = some '/') :
    ((∃ p, compile pattern = .ok p) ↔
      ∀ segment ∈ Text.split '/' (Text.trim pattern.toList),
        ['*', '*'] <:+: segment → segment = ['*', '*']) ∧
    ∀ p, compile pattern = .ok p → ∀ path : String, '\n' ∉ path.toList →
      (p.isMatch path = true ↔
        SegmentsMatch (Text.split '/' (Text.trim pattern.toList)) (Text.split '/' path.toList)) := by
  obtain ⟨cs, text⟩ := List.head?_eq_some_iff.mp slash
  obtain ⟨rest, trimmed⟩ := trim_slash cs
  rw [← text] at trimmed
  rw [trimmed, Text.split_separator]
  have empty : WholeStars [] := fun double => absurd double (by simp)
  constructor
  · rw [List.forall_mem_cons]
    constructor
    · rintro ⟨p, compiled⟩
      exact ⟨empty, ((compile_eq_ok_iff trimmed p).mp compiled).1⟩
    · rintro ⟨_, whole⟩
      exact ⟨_, (compile_eq_ok_iff trimmed _).mpr ⟨whole, rfl⟩⟩
  · intro p compiled path line
    obtain ⟨_, rfl⟩ := (compile_eq_ok_iff trimmed p).mp compiled
    have single : [] ≠ ['*', '*'] := nofun
    rw [SegmentsMatch.segment_iff single]
    refine (accepts_segments_iff (Text.split_clean rest) line).trans ?_
    constructor
    · rintro ⟨ss, spelled, clear, found⟩
      have cut := Text.split_eq_cons_iff.mpr
        ⟨spelled, List.forall_mem_cons.mpr ⟨List.not_mem_nil, clear⟩⟩
      exact ⟨[], ss, cut, .done, found⟩
    · rintro ⟨s, ss, cut, first, found⟩
      obtain rfl := SegmentMatch.nil_iff.mp first
      obtain ⟨spelled, clear⟩ := Text.split_spells cut
      exact ⟨ss, spelled, (List.forall_mem_cons.mp clear).2, found⟩

/-- The slash before `**` is given up with it, and neither dot nor parenthesis is special. -/
theorem compile_matches_segments_subtree :
    let pattern := "/v?/**/(a*).x "
    let path := "/v2/(abc).x"
    pattern.toList.head? = some '/' ∧ '\n' ∉ path.toList ∧
      ∃ p, compile pattern = .ok p ∧ p.isMatch path = true ∧
        SegmentsMatch (Text.split '/' (Text.trim pattern.toList))
          (Text.split '/' path.toList) := by
  intro pattern path
  have slash : pattern.toList.head? = some '/' := by decide +kernel
  have line : '\n' ∉ path.toList := by decide +kernel
  have whole : ∀ segment ∈ Text.split '/' (Text.trim pattern.toList),
      ['*', '*'] <:+: segment → segment = ['*', '*'] := by decide +kernel
  obtain ⟨accepted, meaning⟩ := compile_matches_segments slash
  obtain ⟨p, compiled⟩ := accepted.mpr whole
  have answer : (compile pattern).toOption.map (·.isMatch path) = some true := by decide +kernel
  rw [compiled] at answer
  have found : p.isMatch path = true := Option.some.inj answer
  exact ⟨slash, line, p, compiled, found, (meaning p compiled path line).mp found⟩

end MapGate.PathPattern
