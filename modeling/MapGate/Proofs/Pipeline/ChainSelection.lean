import MapGate.Pipeline.Proxy
import MapGate.Proofs.Text.Trim

/-!
Which chain serves a request. For a resolver whose answers depend on the name alone a table has the
declared chains one by one, each with the stages that its names resolve to. A lookup, in the table or
through a proxy, finds the first declared chain that wants the request, where a pattern or a method
that is no good only narrows its own chain and a disabled chain still catches its requests.
-/
namespace MapGate

namespace FilterChain

/-- Some non-blank piece between the commas of a pattern entry compiles and matches the path. -/
def CoversPath (c : FilterChain) (path : String) : Prop :=
  ∃ entry ∈ c.patterns, ∃ piece ∈ Text.split ',' entry.toList, Text.trim piece ≠ [] ∧
    ∃ p, PathPattern.compile (String.ofList piece) = .ok p ∧ p.isMatch path = true

/-- A configured text names a method: trimmed and in upper case it is this token. -/
def NamesMethod (text method : String) : Prop :=
  method.toList = (Text.trim text.toList).map Char.toUpper ∧
    method.toList ≠ [] ∧ ∀ c ∈ method.toList, isTokenChar c = true

def AdmitsMethod (c : FilterChain) (method : String) : Prop :=
  c.matchHttpMethod = false ∨ c.httpMethods = none ∨
    ∃ methods ∈ c.httpMethods, ∃ text ∈ methods, NamesMethod text method

def Wants (c : FilterChain) (path method : String) : Prop :=
  c.CoversPath path ∧ c.AdmitsMethod method

/-- The names of the stages that come before all others. -/
def guardNames (c : FilterChain) : List String :=
  (if c.requireSsl then ["ssl"] else []) ++
    [if c.allowSessionCreation then "sessionContext" else "noSessionContext"]

/-- The stages of a chain, in order, as far as their names resolve. -/
def stagesFrom (stage? : String → Option Stage) (c : FilterChain) : List Stage :=
  if c.disabled then []
  else
    (c.guardNames ++ ((c.roleFilterName.map trimmed).filter (· ≠ "")).toList ++
      c.filterNames).filterMap stage?

end FilterChain

theorem httpMethod?_eq_some_iff {text method : String} :
    httpMethod? text = some method ↔ FilterChain.NamesMethod text method := by
  unfold httpMethod? FilterChain.NamesMethod
  dsimp only
  split
  case isTrue token =>
    rw [Bool.and_eq_true, Bool.not_eq_true', List.isEmpty_eq_false_iff, List.all_eq_true] at token
    rw [Option.some.injEq]
    constructor
    · rintro rfl
      rw [String.toList_ofList]
      exact ⟨rfl, token⟩
    · intro names
      rw [← names.1, String.ofList_toList]
  case isFalse other =>
    refine iff_of_false nofun ?_
    intro names
    obtain ⟨same, nonempty, token⟩ := names
    rw [← same, Bool.and_eq_true, Bool.not_eq_true', List.isEmpty_eq_false_iff,
      List.all_eq_true] at other
    exact other ⟨nonempty, token⟩

namespace PathPattern

theorem compile_trimmed (piece : List Char) :
    compile (String.ofList (Text.trim piece)) = compile (String.ofList piece) := by
  simp [compile, Text.trim_trim]

theorem mem_compileList_iff {entry : String} {p : PathPattern} :
    .ok p ∈ compileList entry ↔ ∃ piece ∈ Text.split ',' entry.toList, Text.trim piece ≠ [] ∧
      compile (String.ofList piece) = .ok p := by
  simp only [compileList, MapGate.commaItems, Text.commaItems, List.map_map, List.mem_map,
    List.mem_filter, Function.comp]
  constructor
  · intro member
    obtain ⟨_, ⟨⟨piece, listed, rfl⟩, nonempty⟩, compiled⟩ := member
    rw [compile_trimmed] at compiled
    exact ⟨piece, listed, by simpa using nonempty, compiled⟩
  · intro part
    obtain ⟨piece, listed, nonempty, compiled⟩ := part
    rw [← compile_trimmed] at compiled
    exact ⟨_, ⟨⟨piece, listed, rfl⟩, by simpa using nonempty⟩, compiled⟩

end PathPattern

namespace FilterChain

theorem mem_pathPatterns_iff {c : FilterChain} {p : PathPattern} :
    p ∈ c.pathPatterns ↔ ∃ entry ∈ c.patterns, .ok p ∈ PathPattern.compileList entry := by
  simp only [pathPatterns, List.mem_filterMap, List.mem_flatMap]
  constructor
  · intro kept
    obtain ⟨result, ⟨entry, listed, member⟩, accepted⟩ := kept
    cases result with
    | error e => contradiction
    | ok q =>
      obtain rfl := Option.some.inj accepted
      exact ⟨entry, listed, member⟩
  · intro compiled
    obtain ⟨entry, listed, member⟩ := compiled
    exact ⟨.ok p, ⟨entry, listed, member⟩, rfl⟩

theorem coversPath_iff {c : FilterChain} {path : String} :
    (c.pathPatterns.any fun p => p.isMatch path) = true ↔ c.CoversPath path := by
  simp only [List.any_eq_true, mem_pathPatterns_iff, PathPattern.mem_compileList_iff, CoversPath]
  constructor
  · intro matching
    obtain ⟨p, ⟨entry, listed, piece, part, nonblank, compiled⟩, found⟩ := matching
    exact ⟨entry, listed, piece, part, nonblank, p, compiled, found⟩
  · intro covers
    obtain ⟨entry, listed, piece, part, nonblank, p, compiled, found⟩ := covers
    exact ⟨p, ⟨entry, listed, piece, part, nonblank, compiled⟩, found⟩

theorem admitsMethod_iff {c : FilterChain} {method : String} :
    (match c.restriction with
      | some methods => methods.contains method
      | none => true) = true ↔ c.AdmitsMethod method := by
  unfold restriction AdmitsMethod
  cases c.matchHttpMethod with
  | false => simp
  | true =>
    cases c.httpMethods with
    | none => simp
    | some methods => simp [httpMethod?_eq_some_iff]

/-- What a chain compiles to when the resolver is a function of the name. -/
def compiledFrom (stage? : String → Option Stage) (c : FilterChain) : CompiledChain :=
  ⟨c.name, c.pathPatterns, c.restriction, c.stagesFrom stage?⟩

theorem isMatch_compiledFrom {stage? : String → Option Stage} {c : FilterChain}
    {path method : String} :
    (c.compiledFrom stage?).isMatch path method = true ↔ c.Wants path method := by
  rw [CompiledChain.isMatch, Bool.and_eq_true]
  exact and_congr coversPath_iff admitsMethod_iff

theorem stagesFrom_eq (stage? : String → Option Stage) (c : FilterChain) :
    c.stagesFrom stage? = c.stageNames.filterMap stage? := by
  unfold stagesFrom stageNames
  split
  · rfl
  · congr 3
    cases c.roleFilterName with
    | none => rfl
    | some name =>
      by_cases empty : Text.trim name.toList = [] <;> simp [blank, trimmed, empty]

end FilterChain

variable {σ : Type}

/-- In the states of a set, which it does not leave, the resolver answers as a function of the name. -/
def Resolver.Steady (r : Resolver σ) (stage? : String → Option Stage) (stays : σ → Prop) : Prop :=
  ∀ s, stays s → ∀ name, (r.resolve name s).1 = stage? name ∧ stays (r.resolve name s).2

namespace Resolver.Steady

variable {r : Resolver σ} {stage? : String → Option Stage} {stays : σ → Prop}

theorem resolveAll (steady : r.Steady stage? stays) (names : List String) {s : σ} (now : stays s) :
    (r.resolveAll names s).1 = names.filterMap stage? ∧ stays (r.resolveAll names s).2 := by
  induction names generalizing s with
  | nil => exact ⟨rfl, now⟩
  | cons name rest ih =>
    obtain ⟨answer, next⟩ := steady s now name
    obtain ⟨others, last⟩ := ih next
    refine ⟨?_, last⟩
    simp only [Resolver.resolveAll, answer, others, List.filterMap_cons]
    cases stage? name <;> rfl

theorem compileChains (steady : r.Steady stage? stays) (chains : List FilterChain) {s : σ}
    (now : stays s) :
    (PipelineTable.compileChains r chains s).1 = chains.map (·.compiledFrom stage?) ∧
      stays (PipelineTable.compileChains r chains s).2 := by
  induction chains generalizing s with
  | nil => exact ⟨rfl, now⟩
  | cons c rest ih =>
    obtain ⟨stages, next⟩ := steady.resolveAll c.stageNames now
    obtain ⟨others, last⟩ := ih next
    refine ⟨?_, last⟩
    simp only [PipelineTable.compileChains, FilterChain.compile, stages, others, List.map_cons,
      FilterChain.compiledFrom, FilterChain.stagesFrom_eq]

end Resolver.Steady

/-- The resolver gives the answers of a function of the name, in whatever state it is. -/
def Resolver.Answers (r : Resolver σ) (stage? : String → Option Stage) : Prop :=
  ∀ name s, (r.resolve name s).1 = stage? name

namespace Resolver.Answers

variable {r : Resolver σ} {stage? : String → Option Stage}

theorem compileChains (answers : r.Answers stage?) (chains : List FilterChain) (s : σ) :
    (PipelineTable.compileChains r chains s).1 = chains.map (·.compiledFrom stage?) := by
  have steady : r.Steady stage? (fun _ => True) := fun s _ name => ⟨answers name s, trivial⟩
  exact (steady.compileChains chains trivial).1

theorem without_nil (answers : r.Answers stage?) : (r.without []).Answers stage? := by
  intro name s
  rw [← answers name s]
  unfold Resolver.without
  dsimp only
  split <;> simp_all

end Resolver.Answers

/-- What a lookup finds: nothing if no chain wants the request, and otherwise the first chain that
does, with its stages. -/
structure FirstWanted (stage? : String → Option Stage) (chains : List FilterChain)
    (path method : String) (found : Option CompiledChain) : Prop where
  none_iff : found = none ↔ ∀ c ∈ chains, ¬ c.Wants path method
  first : ∀ m ∈ found, ∃ before c after, chains = before ++ c :: after ∧
    (∀ earlier ∈ before, ¬ earlier.Wants path method) ∧ c.Wants path method ∧
    m.name = c.name ∧ m.stages = c.stagesFrom stage?

theorem firstWanted_find (stage? : String → Option Stage) (chains : List FilterChain)
    (path method : String) :
    FirstWanted stage? chains path method
      ((chains.map (·.compiledFrom stage?)).find? fun c => c.isMatch path method) := by
  rw [List.find?_map]
  constructor
  · rw [Option.map_eq_none_iff, List.find?_eq_none]
    simp [FilterChain.isMatch_compiledFrom]
  · intro m found
    obtain ⟨c, chosen, rfl⟩ := Option.map_eq_some_iff.mp found
    obtain ⟨wants, before, after, declared, others⟩ := List.find?_eq_some_iff_append.mp chosen
    refine ⟨before, c, after, declared, ?_, FilterChain.isMatch_compiledFrom.mp wants, rfl, rfl⟩
    intro earlier member wanted
    have refused := others earlier member
    rw [Function.comp, FilterChain.isMatch_compiledFrom.mpr wanted] at refused
    contradiction

theorem Proxy.chain_lookup (p : Proxy σ) (path method : String) :
    (p.lookup path method).map MatchedPipeline.chain = p.table.lookupChain path method := by
  rw [PipelineTable.lookupChain, List.find?_eq_map_findFinIdx?_getElem, Proxy.lookup,
    Option.map_map]
  rfl

/-- A compiled table and a proxy that has rebuilt its own from the same chains, with no instance
retired before, find the same chain: the first declared one that wants the request. -/
theorem lookup_finds_first_wanted {r : Resolver σ} {stage? : String → Option Stage}
    (answers : r.Answers stage?) (chains : List FilterChain) (s : σ) (path method : String) :
    let t := (PipelineTable.compile r chains s).1
    FirstWanted stage? chains path method (t.lookupChain path method) ∧
      t.lookup path method = (t.lookupChain path method).map CompiledChain.stages ∧
      ∀ p : Proxy σ, p.resolver = r → p.retired = [] →
        ((p.rebuild chains).2.lookup path method).map MatchedPipeline.chain =
          t.lookupChain path method := by
  intro t
  have compiled : t.chains = chains.map (·.compiledFrom stage?) := answers.compileChains chains s
  refine ⟨?_, rfl, ?_⟩
  · rw [PipelineTable.lookupChain, compiled]
    exact firstWanted_find stage? chains path method
  · intro p resolver retired
    have published : (p.rebuild chains).2.table.chains = chains.map (·.compiledFrom stage?) := by
      unfold Proxy.rebuild
      dsimp only [PipelineTable.compile]
      rw [retired, resolver]
      exact answers.without_nil.compileChains chains p.resolverState
    rw [Proxy.chain_lookup, PipelineTable.lookupChain, PipelineTable.lookupChain, published, compiled]

/-- The first chain is for another method and the second one has a bad pattern before a good one; it
loses a stage that does not resolve. -/
theorem lookup_finds_first_wanted_second :
    let stage? (name : String) : Option Stage :=
      if name = "digest" then none else some ⟨.given name, name⟩
    let chains : List FilterChain := [
      { name := "upload", patterns := ["/data/**"], matchHttpMethod := true,
        httpMethods := some [" put ", "PO ST"] },
      { name := "data", patterns := [" /da** , /data/**"], requireSsl := true,
        roleFilterName := some " roles ", filterNames := ["digest", "basic"] }]
    let r := Resolver.ofFunction stage?
    let t := (PipelineTable.compile r chains ()).1
    let p : Proxy Unit := { resolver := r, resolverState := () }
    r.Answers stage? ∧ p.resolver = r ∧ p.retired = [] ∧
      FirstWanted stage? chains "/data/7" "POST" (t.lookupChain "/data/7" "POST") ∧
      ((p.rebuild chains).2.lookup "/data/7" "POST").map MatchedPipeline.chain =
        t.lookupChain "/data/7" "POST" ∧
      (t.lookup "/data/7" "POST").map (·.map Stage.name) =
        some ["ssl", "noSessionContext", "roles", "basic"] := by
  intro stage? chains r t p
  have answers : r.Answers stage? := fun _ _ => rfl
  obtain ⟨first, _, agree⟩ := lookup_finds_first_wanted answers chains () "/data/7" "POST"
  exact ⟨answers, rfl, rfl, first, agree p rfl rfl, by decide +kernel⟩

end MapGate
