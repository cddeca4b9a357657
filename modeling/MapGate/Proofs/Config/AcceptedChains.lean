import MapGate.Pipeline.Table
import MapGate.Proofs.Config.Layering
import MapGate.Proofs.Text.Pieces
import MapGate.Proofs.Text.Trim

/-!
The patterns of the chains that finalizing accepts. An enabled chain is refused when all its pattern
entries are blank, while compiling takes an entry apart at its commas and skips the blank pieces. The
two differ on entries that hold commas and nothing else: a chain with no other entries is accepted
and has no pattern.
-/
namespace MapGate

theorem Text.commaItems_eq_nil_iff {cs : List Char} :
    commaItems cs = [] ↔ ∀ c ∈ cs, c = ',' ∨ isBlank c = true := by
  have blank_pieces : commaItems cs = [] ↔
      ∀ piece ∈ split ',' cs, ∀ c ∈ piece, isBlank c = true := by
    simp [commaItems, trim_eq_nil_iff]
  rw [blank_pieces]
  constructor
  · intro blank c member
    by_cases comma : c = ','
    · exact .inl comma
    · obtain ⟨piece, part, inside⟩ := (mem_iff_exists_piece comma).mp member
      exact .inr (blank piece part c inside)
  · intro separators piece part c inside
    have other : c ≠ ',' := by
      rintro rfl
      exact split_clean cs piece part inside
    have member := (mem_iff_exists_piece other).mpr ⟨piece, part, inside⟩
    exact (separators c member).resolve_left other

theorem PathPattern.compileList_eq_nil_iff {entry : String} :
    compileList entry = [] ↔ ∀ c ∈ entry.toList, c = ',' ∨ Text.isBlank c = true := by
  rw [compileList, MapGate.commaItems, List.map_eq_nil_iff, List.map_eq_nil_iff,
    Text.commaItems_eq_nil_iff]

theorem blank_iff {s : String} : blank s = true ↔ ∀ c ∈ s.toList, Text.isBlank c = true := by
  rw [blank, List.isEmpty_iff, Text.trim_eq_nil_iff]

theorem FilterChain.violation?_eq_none_iff {c : FilterChain} {seen : List String} :
    c.violation? seen = none ↔ blank c.name = false ∧ c.name ∉ seen ∧
      (c.disabled = false → ∃ entry ∈ c.patterns, blank entry = false) := by
  unfold violation?
  cases blank c.name with
  | true => simp
  | false =>
    by_cases used : c.name ∈ seen
    · simp [used]
    · cases c.disabled <;> simp [used]

theorem chainsViolation?_eq_none {chains : List FilterChain} {seen : List String}
    (fine : chainsViolation? seen chains = none) :
    ∀ c ∈ chains, ∃ names, c.violation? names = none := by
  induction chains generalizing seen with
  | nil => simp
  | cons c rest ih =>
    rw [chainsViolation?] at fine
    split at fine
    · contradiction
    · rename_i first
      exact List.forall_mem_cons.mpr ⟨⟨seen, first⟩, ih fine⟩

/-- An enabled chain of an accepted configuration has an entry that is not blank. -/
theorem accepted_nonblank {layer : ConfigLayer} {config : Config}
    (accepted : layer.finalize = .ok config) {c : FilterChain} (listed : c ∈ config.filterChains)
    (enabled : c.disabled = false) : ∃ entry ∈ c.patterns, blank entry = false := by
  obtain ⟨fine, rfl⟩ := ConfigLayer.finalize_eq_ok_iff.mp accepted
  obtain ⟨_, chains⟩ := Option.or_eq_none_iff.mp fine
  obtain ⟨seen, own⟩ := chainsViolation?_eq_none chains c listed
  exact (FilterChain.violation?_eq_none_iff.mp own).2.2 enabled

/-- An enabled chain of an accepted configuration has a pattern, be it valid or not, unless its
entries hold nothing but commas and blanks, and some of them commas. -/
theorem accepted_patternless_iff {layer : ConfigLayer} {config : Config}
    (accepted : layer.finalize = .ok config) :
    ∀ c ∈ config.filterChains, c.disabled = false →
      (c.patterns.flatMap PathPattern.compileList = [] ↔
        (∃ entry ∈ c.patterns, ',' ∈ entry.toList) ∧
          ∀ entry ∈ c.patterns, ∀ ch ∈ entry.toList, ch = ',' ∨ Text.isBlank ch = true) := by
  intro c listed enabled
  simp only [List.flatMap_eq_nil_iff, PathPattern.compileList_eq_nil_iff]
  constructor
  · intro separators
    refine ⟨?_, separators⟩
    -- the entry that is not blank has a character that is, and so a comma
    obtain ⟨entry, written, solid⟩ := accepted_nonblank accepted listed enabled
    refine ⟨entry, written, ?_⟩
    by_contra clean
    have all_blank : ∀ ch ∈ entry.toList, Text.isBlank ch = true := by
      intro ch member
      refine (separators entry written ch member).resolve_left ?_
      rintro rfl
      exact clean member
    rw [blank_iff.mpr all_blank] at solid
    contradiction
  · exact And.right

/-- Blank pieces around a bad pattern, which counts as one. -/
theorem accepted_patternless_iff_partial :
    let chain : FilterChain := { name := "admin", patterns := [" ", " , /adm** ,,"] }
    let layer : ConfigLayer := { filterChains := some [chain] }
    ∃ config, layer.finalize = .ok config ∧ chain ∈ config.filterChains ∧
      chain.disabled = false ∧ chain.patterns.flatMap PathPattern.compileList ≠ [] := by
  intro chain layer
  have accepted : layer.finalize = .ok layer.complete := by decide +kernel
  have listed : chain ∈ layer.complete.filterChains := List.mem_singleton_self chain
  refine ⟨_, accepted, listed, rfl, ?_⟩
  rw [Ne, accepted_patternless_iff accepted chain listed rfl]
  rintro ⟨_, separators⟩
  have plain := separators " , /adm** ,," (by simp [chain]) 'a' (by decide)
  revert plain
  decide

/-- An entry that is a comma is accepted, and the chain protects no path. -/
theorem lone_comma_accepted :
    let chain : FilterChain := { name := "admin", patterns := [","], requireSsl := true }
    let layer : ConfigLayer := { filterChains := some [chain] }
    ∃ config, layer.finalize = .ok config ∧ chain ∈ config.filterChains ∧
      chain.disabled = false ∧ chain.patterns.flatMap PathPattern.compileList = [] := by
  intro chain layer
  exact ⟨layer.complete, by decide +kernel, List.mem_singleton_self chain, rfl, by decide +kernel⟩

end MapGate
