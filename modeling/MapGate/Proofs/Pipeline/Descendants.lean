import MapGate.Proofs.Pipeline.AtomSequence
import MapGate.Proofs.Pipeline.PatternMeaning
import MapGate.Proofs.Text.Trim

/-!
A pattern with `/**` behind it. It matches the paths that the pattern matches and all that lies
below them, as far as what lies below is on one line: a path with a line feed there is not protected
by the pattern of the directory it is in.
-/
namespace MapGate.PathPattern

theorem accepts_lone_subtree_iff {path : List Char} : accepts [.subtree] path = true ↔
    path = [] ∨ ∃ below, path = '/' :: below ∧ '\n' ∉ below := by
  simp [accepts_subtree_iff, accepts_nil_iff]

/-- What a pattern matches with `**` as one more segment. -/
theorem accepts_below_iff {k : List Atom} {path : List Char} :
    accepts (k ++ [.subtree]) path = true ↔ accepts k path = true ∨
      ∃ parent below, path = parent ++ '/' :: below ∧ '\n' ∉ below ∧ accepts k parent = true := by
  rw [accepts_append_iff]
  constructor
  · rintro ⟨parent, rest, rfl, matched, tail⟩
    obtain rfl | ⟨below, rfl, line⟩ := accepts_lone_subtree_iff.mp tail
    · exact .inl (by rwa [List.append_nil])
    · exact .inr ⟨parent, below, rfl, line, matched⟩
  · rintro (matched | ⟨parent, below, rfl, line, matched⟩)
    · exact ⟨path, [], (List.append_nil _).symm, matched, accepts_lone_subtree_iff.mpr (.inl rfl)⟩
    · have tail := accepts_lone_subtree_iff.mpr (.inr ⟨below, rfl, line⟩)
      exact ⟨parent, '/' :: below, rfl, matched, tail⟩

/-- A trimmed pattern that begins with a slash compiles with `/**` behind it to one more atom. -/
theorem compile_append_stars {pattern : String} {p : PathPattern}
    (bare : Text.trim pattern.toList = pattern.toList) (slash : pattern.toList.head? = some '/')
    (compiled : compile pattern = .ok p) :
    compile (pattern ++ "/**") = .ok ⟨pattern ++ "/**", p.atoms ++ [.subtree]⟩ := by
  obtain ⟨cs, text⟩ := List.head?_eq_some_iff.mp slash
  have shorter : Text.trim pattern.toList = '/' :: cs := bare.trans text
  have longer : (pattern ++ "/**").toList = '/' :: (cs ++ ['/', '*', '*']) := by
    rw [String.toList_append, text]
    rfl
  have last : ('/' :: (cs ++ ['/', '*', '*'])).getLast? = some '*' := by
    rw [← List.cons_append, List.getLast?_append_of_ne_nil _ (by simp)]
    rfl
  have trimmed : Text.trim (pattern ++ "/**").toList = '/' :: (cs ++ ['/', '*', '*']) := by
    rw [longer, Text.trim_eq_self_iff, last]
    exact ⟨by rintro _ ⟨⟩; rfl, by rintro _ ⟨⟩; rfl⟩
  obtain ⟨whole, rfl⟩ := (compile_eq_ok_iff shorter p).mp compiled
  have cut : Text.split '/' (cs ++ ['/', '*', '*']) = Text.split '/' cs ++ [['*', '*']] :=
    Text.split_append_separator cs ['*', '*']
  refine (compile_eq_ok_iff trimmed _).mpr ⟨?_, ?_⟩
  · rw [cut]
    exact List.forall_mem_append.mpr ⟨whole, by simp [WholeStars]⟩
  · rw [cut, List.flatMap_append, ← longer, String.ofList_toList]
    rfl

/-- With `/**` behind it a pattern matches what it matched before and all below that is on one
line, and nothing else. -/
theorem subtree_covers_descendants {pattern : String} {p : PathPattern}
    (bare : Text.trim pattern.toList = pattern.toList) (slash : pattern.toList.head? = some '/')
    (compiled : compile pattern = .ok p) :
    ∃ whole, compile (pattern ++ "/**") = .ok whole ∧ ∀ path, whole.isMatch path = true ↔
      p.isMatch path = true ∨ ∃ parent below, path = parent ++ "/" ++ below ∧
        '\n' ∉ below.toList ∧ p.isMatch parent = true := by
  have extended := compile_append_stars bare slash compiled
  exact ⟨_, extended, fun path => accepts_below_iff.trans (or_congr_right exists_cut_iff)⟩

/-- What the star of a pattern stands for has a subtree of its own. -/
theorem subtree_covers_descendants_star :
    let pattern := "/d/*"
    let p : PathPattern := ⟨pattern, [.char '/', .char 'd', .char '/', .run]⟩
    Text.trim pattern.toList = pattern.toList ∧ pattern.toList.head? = some '/' ∧
      compile pattern = .ok p ∧ ∃ whole, compile (pattern ++ "/**") = .ok whole ∧
        whole.isMatch "/d/x" = true ∧ whole.isMatch "/d/x//y" = true ∧
        whole.isMatch "/d" = false := by
  intro pattern p
  have bare : Text.trim pattern.toList = pattern.toList := by decide +kernel
  have slash : pattern.toList.head? = some '/' := by decide +kernel
  have compiled : compile pattern = .ok p := by decide +kernel
  obtain ⟨whole, extended, covers⟩ := subtree_covers_descendants bare slash compiled
  have parent : p.isMatch "/d/x" = true := by decide +kernel
  have line : '\n' ∉ "/y".toList := by decide +kernel
  refine ⟨bare, slash, compiled, whole, extended, (covers _).mpr (.inl parent), ?_, ?_⟩
  · exact (covers _).mpr (.inr ⟨"/d/x", "/y", by decide +kernel, line, parent⟩)
  · have answer : (compile (pattern ++ "/**")).toOption.map (·.isMatch "/d") = some false := by
      decide +kernel
    rw [extended] at answer
    exact Option.some.inj answer

/-- A path with a line feed below what `/a` matches is not matched by `/a/**`. -/
theorem descendant_on_two_lines_escapes : ∃ p whole, compile "/a" = .ok p ∧
    compile ("/a" ++ "/**") = .ok whole ∧ p.isMatch "/a" = true ∧
    whole.isMatch ("/a" ++ "/" ++ "b\nc") = false := by
  refine ⟨⟨"/a", [.char '/', .char 'a']⟩, ⟨"/a/**", [.char '/', .char 'a', .subtree]⟩, ?_⟩
  decide +kernel

end MapGate.PathPattern
