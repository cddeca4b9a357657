import MapGate.Pipeline.PathPattern
import MapGate.Proofs.Text.Pieces

/-!
What a path pattern means segment by segment, and that the atoms of a pattern without a leading
`**` accept just that. An atom that may span segments is compiled for a `**` only; all others
belong to one segment, and each segment has its atoms behind those of the segments before it.
-/
namespace MapGate.PathPattern

/-- What one character of a pattern stands for: `*` for any run of characters, `?` for one, and
every other character for itself. -/
def CharMatch : Char → List Char → Prop
  | '*', _ => True
  | '?', s => ∃ c, s = [c]
  | c, s => s = [c]

theorem charMatch_literal {c : Char} (star : c ≠ '*') (mark : c ≠ '?') (s : List Char) :
    CharMatch c s ↔ s = [c] := by
  unfold CharMatch
  split
  · exact absurd rfl star
  · exact absurd rfl mark
  · rfl

/-- One segment of a pattern and one of a path: what the characters stand for, one after another. -/
inductive SegmentMatch : List Char → List Char → Prop where
  | done : SegmentMatch [] []
  | next {c : Char} {part p s : List Char} (first : CharMatch c part) (rest : SegmentMatch p s) :
      SegmentMatch (c :: p) (part ++ s)

/-- The segments of a pattern and those of a path: `**` stands for any number of whole segments. -/
inductive SegmentsMatch : List (List Char) → List (List Char) → Prop where
  | done : SegmentsMatch [] []
  | segment {p s : List Char} {ps ss : List (List Char)} (single : p ≠ ['*', '*'])
      (first : SegmentMatch p s) (rest : SegmentsMatch ps ss) : SegmentsMatch (p :: ps) (s :: ss)
  | subtree {ps ss : List (List Char)} (skipped : List (List Char)) (rest : SegmentsMatch ps ss) :
      SegmentsMatch (['*', '*'] :: ps) (skipped ++ ss)

namespace SegmentMatch

theorem nil_iff {s : List Char} : SegmentMatch [] s ↔ s = [] := by
  constructor
  · rintro ⟨⟩
    rfl
  · rintro rfl
    exact done

theorem cons_iff {c : Char} {p s : List Char} : SegmentMatch (c :: p) s ↔
    ∃ part rest, s = part ++ rest ∧ CharMatch c part ∧ SegmentMatch p rest := by
  constructor
  · rintro ⟨⟩
    exact ⟨_, _, rfl, ‹_›, ‹_›⟩
  · rintro ⟨part, rest, rfl, first, tail⟩
    exact .next first tail

end SegmentMatch

namespace SegmentsMatch

theorem nil_iff {ss : List (List Char)} : SegmentsMatch [] ss ↔ ss = [] := by
  constructor
  · rintro ⟨⟩
    rfl
  · rintro rfl
    exact done

theorem segment_iff {p : List Char} (single : p ≠ ['*', '*']) {ps ss : List (List Char)} :
    SegmentsMatch (p :: ps) ss ↔
      ∃ s rest, ss = s :: rest ∧ SegmentMatch p s ∧ SegmentsMatch ps rest := by
  constructor
  · intro found
    cases found with
    | segment _ first rest => exact ⟨_, _, rfl, first, rest⟩
    | subtree => exact absurd rfl single
  · rintro ⟨s, rest, rfl, first, found⟩
    exact found.segment single first

theorem subtree_iff {ps ss : List (List Char)} :
    SegmentsMatch (['*', '*'] :: ps) ss ↔
      ∃ skipped rest, ss = skipped ++ rest ∧ SegmentsMatch ps rest := by
  constructor
  · intro found
    cases found with
    | segment single => exact absurd rfl single
    | subtree skipped rest => exact ⟨skipped, _, rfl, rest⟩
  · rintro ⟨skipped, rest, rfl, found⟩
    exact found.subtree skipped

end SegmentsMatch

def atomOf : Char → Atom
  | '*' => .run
  | '?' => .one
  | c => .char c

theorem atomOf_literal {c : Char} (star : c ≠ '*') (mark : c ≠ '?') : atomOf c = .char c := by
  unfold atomOf
  split
  · exact absurd rfl star
  · exact absurd rfl mark
  · rfl

/-- The atoms of a segment that stands behind a slash. -/
def segmentAtoms (p : List Char) : List Atom :=
  if p = ['*', '*'] then [.subtree] else .char '/' :: p.map atomOf

/-- Accepting after some characters up to a stop is accepting what is left after them. -/
theorem after_iff {stop : Char} {k after : List Char → Bool} (nil : after [] = k [])
    (cons : ∀ c rest, after (c :: rest) = (k (c :: rest) || (c != stop && after rest)))
    {path : List Char} : after path = true ↔
      ∃ skipped rest, path = skipped ++ rest ∧ stop ∉ skipped ∧ k rest = true := by
  induction path with
  | nil =>
    rw [nil]
    constructor
    · intro accepted
      exact ⟨[], [], rfl, List.not_mem_nil, accepted⟩
    · rintro ⟨skipped, rest, whole, _, accepted⟩
      obtain ⟨rfl, rfl⟩ := List.nil_eq_append_iff.mp whole
      exact accepted
  | cons c tail ih =>
    rw [cons, Bool.or_eq_true, Bool.and_eq_true, bne_iff_ne, ih]
    constructor
    · rintro (accepted | ⟨other, skipped, rest, rfl, clean, accepted⟩)
      · exact ⟨[], c :: tail, rfl, List.not_mem_nil, accepted⟩
      · have free := List.not_mem_cons_of_ne_of_not_mem other.symm clean
        exact ⟨c :: skipped, rest, rfl, free, accepted⟩
    · rintro ⟨skipped, rest, whole, clean, accepted⟩
      cases skipped with
      | nil => exact .inl (whole ▸ accepted)
      | cons d more =>
        obtain ⟨rfl, rfl⟩ := List.cons.inj whole
        obtain ⟨other, later⟩ := not_or.mp (mt List.mem_cons.mpr clean)
        exact .inr ⟨Ne.symm other, more, rest, rfl, later, accepted⟩

theorem accepts_nil_iff {path : List Char} : accepts [] path = true ↔ path = [] :=
  List.isEmpty_iff

variable {k : List Atom} {path : List Char}

theorem accepts_char_iff {a : Char} :
    accepts (.char a :: k) path = true ↔ ∃ rest, path = a :: rest ∧ accepts k rest = true := by
  cases path with
  | nil => exact iff_of_false Bool.false_ne_true nofun
  | cons c tail => grind [accepts]

theorem accepts_one_iff : accepts (.one :: k) path = true ↔
    ∃ c rest, path = c :: rest ∧ c ≠ '/' ∧ accepts k rest = true := by
  cases path with
  | nil => simp [accepts]
  | cons c tail => grind [accepts]

theorem accepts_run_iff : accepts (.run :: k) path = true ↔
    ∃ skipped rest, path = skipped ++ rest ∧ '/' ∉ skipped ∧ accepts k rest = true :=
  @after_iff '/' (accepts k) (afterRun (accepts k)) rfl (fun _ _ => rfl) path

theorem afterSlash_iff {after : List Char → Bool} :
    afterSlash after path = true ↔ ∃ rest, path = '/' :: rest ∧ after rest = true := by
  cases path with
  | nil => simp [afterSlash]
  | cons c tail => grind [afterSlash]

theorem afterAny_iff {after : List Char → Bool} : afterAny after path = true ↔
    ∃ skipped rest, path = skipped ++ rest ∧ '\n' ∉ skipped ∧ after rest = true :=
  @after_iff '\n' after (afterAny after) rfl (fun _ _ => rfl) path

theorem accepts_subtree_iff : accepts (.subtree :: k) path = true ↔
    accepts k path = true ∨ ∃ skipped rest,
      path = '/' :: (skipped ++ rest) ∧ '\n' ∉ skipped ∧ accepts k rest = true := by
  rw [accepts, Bool.or_eq_true, afterSlash_iff]
  apply or_congr_right
  constructor
  · rintro ⟨tail, rfl, found⟩
    obtain ⟨skipped, rest, rfl, clean, accepted⟩ := afterAny_iff.mp found
    exact ⟨skipped, rest, rfl, clean, accepted⟩
  · rintro ⟨skipped, rest, rfl, clean, accepted⟩
    exact ⟨skipped ++ rest, rfl, afterAny_iff.mpr ⟨skipped, rest, rfl, clean, accepted⟩⟩

theorem accepts_atomOf_iff {c : Char} (other : c ≠ '/') :
    accepts (atomOf c :: k) path = true ↔
      ∃ part rest, path = part ++ rest ∧ '/' ∉ part ∧ CharMatch c part ∧ accepts k rest = true := by
  unfold atomOf
  split
  case h_1 => simpa [CharMatch] using accepts_run_iff
  case h_2 =>
    refine accepts_one_iff.trans ⟨?_, ?_⟩
    · rintro ⟨d, rest, rfl, free, accepted⟩
      exact ⟨[d], rest, rfl, by simpa using free.symm, ⟨d, rfl⟩, accepted⟩
    · rintro ⟨_, rest, rfl, free, ⟨d, rfl⟩, accepted⟩
      exact ⟨d, rest, rfl, by simpa [eq_comm] using free, accepted⟩
  case h_3 star mark =>
    simp only [charMatch_literal star mark]
    refine accepts_char_iff.trans ⟨?_, ?_⟩
    · rintro ⟨rest, rfl, accepted⟩
      exact ⟨[c], rest, rfl, by simpa using other.symm, rfl, accepted⟩
    · rintro ⟨_, rest, rfl, _, rfl, accepted⟩
      exact ⟨rest, rfl, accepted⟩

/-- The atoms of one segment accept a part of the path that the segment stands for. -/
theorem accepts_segment_iff {p : List Char} (clean : '/' ∉ p) :
    accepts (p.map atomOf ++ k) path = true ↔
      ∃ s rest, path = s ++ rest ∧ '/' ∉ s ∧ SegmentMatch p s ∧ accepts k rest = true := by
  induction p generalizing path with
  | nil =>
    constructor
    · intro accepted
      exact ⟨[], path, rfl, List.not_mem_nil, .done, accepted⟩
    · rintro ⟨s, rest, rfl, _, found, accepted⟩
      obtain rfl := SegmentMatch.nil_iff.mp found
      exact accepted
  | cons c p ih =>
    obtain ⟨other, later⟩ := not_or.mp (mt List.mem_cons.mpr clean)
    refine (accepts_atomOf_iff (Ne.symm other)).trans ⟨?_, ?_⟩
    · rintro ⟨part, tail, rfl, free, first, accepted⟩
      obtain ⟨s, rest, rfl, clear, found, accepted⟩ := (ih later).mp accepted
      have both : '/' ∉ part ++ s := mt List.mem_append.mp (not_or.mpr ⟨free, clear⟩)
      exact ⟨part ++ s, rest, (List.append_assoc ..).symm, both, .next first found, accepted⟩
    · rintro ⟨s, rest, rfl, both, found, accepted⟩
      obtain ⟨part, s, rfl, first, tail⟩ := SegmentMatch.cons_iff.mp found
      obtain ⟨free, clear⟩ := not_or.mp (mt List.mem_append.mpr both)
      have onward := (ih later).mpr ⟨s, rest, rfl, clear, tail, accepted⟩
      exact ⟨part, s ++ rest, List.append_assoc .., free, first, onward⟩

/-- A path is the text of segments behind slashes that those of a pattern stand for. -/
def Spells (ps : List (List Char)) (path : List Char) : Prop :=
  ∃ ss, path = Text.behind '/' ss ∧ (∀ s ∈ ss, '/' ∉ s) ∧ SegmentsMatch ps ss

/-- What is left of a path on one line is on one line. -/
theorem not_mem_rest {line a : Char} {s rest : List Char} (clean : line ∉ a :: (s ++ rest)) :
    line ∉ rest :=
  mt (fun member => List.mem_cons_of_mem a (List.mem_append_right s member)) clean

/-- A `**` accepts any number of whole segments before what the atoms behind it accept. -/
theorem accepts_many_iff {ps : List (List Char)} (line : '\n' ∉ path)
    (later : ∀ {rest}, '\n' ∉ rest → (accepts k rest = true ↔ Spells ps rest)) :
    accepts (.subtree :: k) path = true ↔ Spells (['*', '*'] :: ps) path := by
  refine accepts_subtree_iff.trans ⟨?_, ?_⟩
  · rintro (accepted | ⟨skipped, rest, rfl, _, accepted⟩)
    · obtain ⟨ss, rfl, clear, found⟩ := (later line).mp accepted
      exact ⟨ss, rfl, clear, found.subtree []⟩
    · obtain ⟨ss, rfl, clear, found⟩ := (later (not_mem_rest line)).mp accepted
      -- what was skipped are whole segments, since the next ones begin with a slash
      obtain ⟨s, more, cut⟩ := Text.exists_split '/' skipped
      obtain ⟨rfl, free⟩ := Text.split_spells cut
      refine ⟨(s :: more) ++ ss, ?_, ?_, found.subtree (s :: more)⟩
      · rw [Text.behind_append, Text.behind_cons, List.cons_append]
      · exact List.forall_mem_append.mpr ⟨free, clear⟩
  · rintro ⟨ss, rfl, clear, found⟩
    obtain ⟨skipped, rest, rfl, tail⟩ := SegmentsMatch.subtree_iff.mp found
    have clean := (List.forall_mem_append.mp clear).2
    rw [Text.behind_append] at line ⊢
    obtain ⟨above, below⟩ := not_or.mp (mt List.mem_append.mpr line)
    have accepted := (later below).mpr ⟨rest, rfl, clean, tail⟩
    cases skipped with
    | nil => exact .inl accepted
    | cons s more =>
      have inner : '\n' ∉ s ++ Text.behind '/' more := mt (List.mem_cons_of_mem '/') above
      exact .inr ⟨s ++ Text.behind '/' more, Text.behind '/' rest, rfl, inner, accepted⟩

/-- Any other segment accepts a slash and one segment before what the atoms behind it accept. -/
theorem accepts_single_iff {p : List Char} {ps : List (List Char)} (clean : '/' ∉ p)
    (single : p ≠ ['*', '*']) (line : '\n' ∉ path)
    (later : ∀ {rest}, '\n' ∉ rest → (accepts k rest = true ↔ Spells ps rest)) :
    accepts (.char '/' :: (p.map atomOf ++ k)) path = true ↔ Spells (p :: ps) path := by
  refine accepts_char_iff.trans ⟨?_, ?_⟩
  · rintro ⟨tail, rfl, accepted⟩
    obtain ⟨s, rest, rfl, free, first, accepted⟩ := (accepts_segment_iff clean).mp accepted
    obtain ⟨ss, rfl, clear, found⟩ := (later (not_mem_rest line)).mp accepted
    exact ⟨s :: ss, rfl, List.forall_mem_cons.mpr ⟨free, clear⟩, found.segment single first⟩
  · rintro ⟨ss, rfl, clear, found⟩
    obtain ⟨s, rest, rfl, first, tail⟩ := (SegmentsMatch.segment_iff single).mp found
    obtain ⟨free, others⟩ := List.forall_mem_cons.mp clear
    have accepted := (later (not_mem_rest line)).mpr ⟨rest, rfl, others, tail⟩
    have start := (accepts_segment_iff clean).mpr ⟨s, _, rfl, free, first, accepted⟩
    exact ⟨s ++ Text.behind '/' rest, rfl, start⟩

/-- The atoms of whole segments accept a path on one line that these segments stand for. -/
theorem accepts_segments_iff {ps : List (List Char)} (clean : ∀ p ∈ ps, '/' ∉ p)
    (line : '\n' ∉ path) : accepts (ps.flatMap segmentAtoms) path = true ↔ Spells ps path := by
  induction ps generalizing path with
  | nil =>
    refine accepts_nil_iff.trans ⟨?_, ?_⟩
    · rintro rfl
      exact ⟨[], rfl, nofun, .done⟩
    · rintro ⟨ss, rfl, _, found⟩
      obtain rfl := SegmentsMatch.nil_iff.mp found
      rfl
  | cons p ps ih =>
    obtain ⟨first, others⟩ := List.forall_mem_cons.mp clean
    rw [List.flatMap_cons, segmentAtoms]
    split
    case isTrue many => exact many ▸ accepts_many_iff line (ih others)
    case isFalse single => exact accepts_single_iff first single line (ih others)

end MapGate.PathPattern
