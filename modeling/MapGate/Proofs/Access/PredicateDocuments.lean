import MapGate.Access.Decode
import MapGate.Proofs.Access.NormalForm

/-!
Predicates that are read from documents. Reading takes a conjunction as it is written, so a
predicate has the shape of its document: it is flat, without empty or nested conjunctions, only if
the document is. It denies everything as soon as `never` stands anywhere in the document, but it is
the denying sentinel, on which the limits that carry it rely, only if the document is nothing else.
-/
namespace MapGate.Predicate

/-- The document of a conjunction. -/
abbrev conjunction (items : List Json) : Json := .object [(some "and", .array items)]

/-- Whether `k` is a document of predicates, as the whole of it or in a conjunction. -/
inductive StandsIn (k : Json) : Json → Prop where
  | whole : StandsIn k k
  | part {item : Json} {items : List Json} (member : item ∈ items) (deeper : StandsIn k item) :
      StandsIn k (conjunction items)

/-- The two documents of a sentinel. -/
inductive NamesSentinel (name : String) : Json → Prop where
  | text : NamesSentinel name (.string (some name))
  | member : NamesSentinel name (.object [(some name, .null)])

/-- Conjunctions have parts, none of which is a conjunction. -/
def Flat (p : Predicate) : Prop :=
  ∀ ps, OccursIn (conj ps) p → ps ≠ [] ∧ ∀ qs, conj qs ∉ ps

def FlatDocument (j : Json) : Prop :=
  ∀ items, StandsIn (conjunction items) j → items ≠ [] ∧ ∀ more, conjunction more ∉ items

/-- What a document is read as, the items of a conjunction being read one by one. -/
inductive ReadAs : Json → Predicate → Prop where
  | always {j : Json} (names : NamesSentinel "always" j) : ReadAs j always
  | never {j : Json} (names : NamesSentinel "never" j) : ReadAs j never
  | expr (text : String) : ReadAs (.object [(some "expr", .string (some text))]) (expr text)
  | conj {items : List Json} {ps : List Predicate} (each : items.map ofJson? = ps.map some) :
      ReadAs (conjunction items) (conj ps)

theorem ofParts?_eq_some_iff {items : List Json} {ps : List Predicate} :
    ofParts? items = some ps ↔ items.map ofJson? = ps.map some := by
  induction items generalizing ps with
  | nil => cases ps <;> simp [ofParts?]
  | cons item rest ih =>
    rw [ofParts?, List.map_cons]
    cases ps with
    | nil => cases ofJson? item <;> cases ofParts? rest <;> simp
    | cons p ps =>
      rw [List.map_cons, List.cons.injEq, ← ih]
      cases ofJson? item <;> cases ofParts? rest <;> simp

theorem readAs_sentinel {j : Json} {name : String} {p : Predicate}
    (read : sentinel? name = some p) (names : NamesSentinel name j) : ReadAs j p := by
  unfold sentinel? at read
  split at read
  case h_1 =>
    obtain rfl := Option.some.inj read
    exact .always names
  case h_2 =>
    obtain rfl := Option.some.inj read
    exact .never names
  case h_3 => cases read

theorem readAs_member {key : String} {content : Json} {p : Predicate}
    (read : ofMember? key content = some p) : ReadAs (.object [(some key, content)]) p := by
  unfold ofMember? at read
  split at read
  case h_1 => exact readAs_sentinel read .member
  case h_2 text =>
    split at read
    case isTrue same =>
      obtain rfl := Option.some.inj read
      rw [same]
      exact .expr text
    case isFalse => cases read
  case h_3 items =>
    split at read
    case isTrue same =>
      obtain ⟨ps, each, rfl⟩ := Option.map_eq_some_iff.mp read
      rw [same]
      exact .conj (ofParts?_eq_some_iff.mp each)
    case isFalse => cases read
  case h_4 => cases read

theorem ofJson?_eq_some_iff {j : Json} {p : Predicate} : ofJson? j = some p ↔ ReadAs j p := by
  constructor
  · intro read
    unfold ofJson? at read
    split at read
    case h_1 => exact readAs_sentinel read .text
    case h_2 => exact readAs_member read
    case h_3 => cases read
  · intro read
    cases read with
    | always names | never names => cases names <;> simp [ofJson?, ofMember?, sentinel?]
    | expr text => simp [ofJson?, ofMember?]
    | conj each => simp [ofJson?, ofMember?, ofParts?_eq_some_iff.mpr each]

theorem conjunction_of_read {j : Json} {ps : List Predicate} (read : ofJson? j = some (conj ps)) :
    ∃ items, j = conjunction items ∧ items.map ofJson? = ps.map some := by
  cases ofJson?_eq_some_iff.mp read with
  | conj each => exact ⟨_, rfl, each⟩

theorem read_conjunction {items : List Json} {p : Predicate}
    (read : ofJson? (conjunction items) = some p) :
    ∃ ps, p = conj ps ∧ items.map ofJson? = ps.map some := by
  have member : ofJson? (conjunction items) = (ofParts? items).map conj := by
    simp [ofJson?, ofMember?]
  rw [member] at read
  obtain ⟨ps, each, rfl⟩ := Option.map_eq_some_iff.mp read
  exact ⟨ps, rfl, ofParts?_eq_some_iff.mp each⟩

theorem ofJson?_eq_never_iff {j : Json} : ofJson? j = some never ↔ NamesSentinel "never" j := by
  rw [ofJson?_eq_some_iff]
  constructor
  · intro read
    cases read with
    | never names => exact names
  · exact .never

section Items

variable {items : List Json} {ps : List Predicate} (each : items.map ofJson? = ps.map some)

include each

theorem part_of_item {item : Json} (member : item ∈ items) :
    ∃ q ∈ ps, ofJson? item = some q := by
  have listed : ofJson? item ∈ ps.map some := each ▸ List.mem_map_of_mem member
  obtain ⟨q, part, same⟩ := List.mem_map.mp listed
  exact ⟨q, part, same.symm⟩

theorem item_of_part {q : Predicate} (part : q ∈ ps) :
    ∃ item ∈ items, ofJson? item = some q := by
  have listed : some q ∈ items.map ofJson? := each ▸ List.mem_map_of_mem part
  exact List.mem_map.mp listed

/-- A list of documents and the predicates they are read as are alike as parts of a conjunction. -/
theorem flat_parts_iff : (ps ≠ [] ∧ ∀ qs, conj qs ∉ ps) ↔
    items ≠ [] ∧ ∀ more, conjunction more ∉ items := by
  have empty : items = [] ↔ ps = [] := by
    rw [← List.map_eq_nil_iff (f := ofJson?), each, List.map_eq_nil_iff]
  have nested : (∃ qs, conj qs ∈ ps) ↔ ∃ more, conjunction more ∈ items := by
    constructor
    · intro inner
      obtain ⟨qs, part⟩ := inner
      obtain ⟨item, member, read⟩ := item_of_part each part
      obtain ⟨more, rfl, _⟩ := conjunction_of_read read
      exact ⟨more, member⟩
    · intro inner
      obtain ⟨more, member⟩ := inner
      obtain ⟨q, part, read⟩ := part_of_item each member
      obtain ⟨qs, rfl, _⟩ := read_conjunction read
      exact ⟨qs, part⟩
  rw [← not_exists, ← not_exists, nested, ne_eq, ne_eq, empty]

end Items

/-- What stands in a document is read as something that occurs in the predicate. -/
theorem StandsIn.occurs {k j : Json} (stands : StandsIn k j) {p : Predicate}
    (read : ofJson? j = some p) : ∃ q, OccursIn q p ∧ ofJson? k = some q := by
  induction stands generalizing p with
  | whole => exact ⟨p, .whole, read⟩
  | part member deeper ih =>
    obtain ⟨ps, rfl, each⟩ := read_conjunction read
    obtain ⟨q, part, inner⟩ := part_of_item each member
    obtain ⟨r, occurs, found⟩ := ih inner
    exact ⟨r, .part part occurs, found⟩

/-- What occurs in a predicate is read from something that stands in the document. -/
theorem OccursIn.stands {q p : Predicate} (occurs : OccursIn q p) {j : Json}
    (read : ofJson? j = some p) : ∃ k, StandsIn k j ∧ ofJson? k = some q := by
  induction occurs generalizing j with
  | whole => exact ⟨j, .whole, read⟩
  | part member deeper ih =>
    obtain ⟨items, rfl, each⟩ := conjunction_of_read read
    obtain ⟨item, listed, inner⟩ := item_of_part each member
    obtain ⟨k, stands, found⟩ := ih inner
    exact ⟨k, .part listed stands, found⟩

theorem flat_iff_of_read {j : Json} {p : Predicate} (read : ofJson? j = some p) :
    p.Flat ↔ FlatDocument j := by
  constructor
  · intro flat items stands
    obtain ⟨q, occurs, inner⟩ := stands.occurs read
    obtain ⟨ps, rfl, each⟩ := read_conjunction inner
    exact (flat_parts_iff each).mp (flat ps occurs)
  · intro flat ps occurs
    obtain ⟨k, stands, inner⟩ := occurs.stands read
    obtain ⟨items, rfl, each⟩ := conjunction_of_read inner
    exact (flat_parts_iff each).mpr (flat items stands)

theorem eval_of_never_occurs {p : Predicate} (occurs : OccursIn never p) (truth : String → Bool) :
    p.eval truth = false := by
  induction occurs with
  | whole => simp [eval]
  | part member deeper denied =>
    rw [Bool.eq_false_iff, Ne, eval_conj_iff]
    intro all
    exact Bool.false_ne_true (denied.symm.trans (all _ member))

/-- Without the sentinel a predicate holds when all expressions do. -/
theorem eval_of_never_free : (p : Predicate) → ¬ OccursIn never p →
    p.eval (fun _ => true) = true
  | always, _ => by simp [eval]
  | never, free => absurd .whole free
  | expr _, _ => by simp [eval]
  | conj ps, free => by
    rw [eval_conj_iff]
    intro p member
    exact eval_of_never_free p fun occurs => free (.part member occurs)

theorem denies_iff_never_occurs {p : Predicate} :
    (∀ truth, p.eval truth = false) ↔ OccursIn never p := by
  constructor
  · intro denied
    by_contra free
    have granted := eval_of_never_free p free
    rw [denied] at granted
    contradiction
  · exact eval_of_never_occurs

theorem denies_iff_of_read {j : Json} {p : Predicate} (read : ofJson? j = some p) :
    (∀ truth, p.eval truth = false) ↔ ∃ k, NamesSentinel "never" k ∧ StandsIn k j := by
  rw [denies_iff_never_occurs]
  constructor
  · intro occurs
    obtain ⟨k, stands, inner⟩ := occurs.stands read
    exact ⟨k, ofJson?_eq_never_iff.mp inner, stands⟩
  · intro named
    obtain ⟨k, names, stands⟩ := named
    obtain ⟨q, occurs, inner⟩ := stands.occurs read
    rw [ofJson?_eq_never_iff.mpr names] at inner
    obtain rfl := Option.some.inj inner
    exact occurs

theorem isNever_iff_of_read {j : Json} {p : Predicate} (read : ofJson? j = some p) :
    p.isNever = true ↔ NamesSentinel "never" j := by
  rw [← ofJson?_eq_never_iff, read, Option.some.injEq]
  cases p <;> simp [isNever]

/-- How a predicate follows the document that it is read from. -/
structure FollowsDocument (j : Json) (p : Predicate) : Prop where
  flat : p.Flat ↔ FlatDocument j
  denies : (∀ truth, p.eval truth = false) ↔ ∃ k, NamesSentinel "never" k ∧ StandsIn k j
  isNever : p.isNever = true ↔ NamesSentinel "never" j
  canRead : ∀ l : Limits, l.readFilter? = some p → (l.canRead = false ↔ NamesSentinel "never" j)

theorem parse?_eq_some_iff {text : String} {p : Predicate} : parse? text = some p ↔
    ∃ j, Json.parse? text = some j ∧ j.depth < nestingLimit ∧ ofJson? j = some p := by
  unfold parse?
  cases Json.parse? text <;> simp

/-- A predicate that is read from a text has the shape that the text gives it. -/
theorem parsed_followsDocument {text : String} {p : Predicate} (read : parse? text = some p) :
    ∃ j, Json.parse? text = some j ∧ FollowsDocument j p := by
  obtain ⟨j, document, _, inner⟩ := parse?_eq_some_iff.mp read
  refine ⟨j, document, ?_⟩
  constructor
  case flat => exact flat_iff_of_read inner
  case denies => exact denies_iff_of_read inner
  case isNever => exact isNever_iff_of_read inner
  case canRead =>
    intro l filter
    rw [canRead_of_readFilter filter, Bool.not_eq_false']
    exact isNever_iff_of_read inner

/-- A conjunction in a conjunction, and `never` as one of its parts. -/
theorem parsed_followsDocument_nested :
    let text := "\x7b\"and\": [\x7b\"expr\": \"a\"\x7d, \x7b\"and\": [\"never\"]\x7d]\x7d"
    let p := conj [expr "a", conj [never]]
    parse? text = some p ∧ ∃ j, Json.parse? text = some j ∧ FollowsDocument j p := by
  intro text p
  have read : parse? text = some p := by
    simp only [parse?, Json.parse?, text, String.reduceToList]
    rfl
  exact ⟨read, parsed_followsDocument read⟩

/-- Conjunctions are read although they are empty or nested, and limits may be read under a filter
that is false under every assignment. -/
theorem denying_conjunction_readable :
    let text := "\x7b\"and\": [\x7b\"and\": []\x7d, \"never\"]\x7d"
    let p := conj [conj [], never]
    let l : Limits := .data { mode := .challenge, readFilter := p }
    parse? text = some p ∧ OccursIn (conj []) p ∧ ¬ p.Flat ∧
      (∀ truth, p.eval truth = false) ∧ p.isNever = false ∧
      l.readFilter? = some p ∧ l.canRead = true := by
  intro text p l
  have read : parse? text = some p := by
    simp only [parse?, Json.parse?, text, String.reduceToList]
    rfl
  have empty : OccursIn (conj []) p := .part List.mem_cons_self .whole
  have denied : OccursIn never p := .part (List.mem_cons_of_mem _ List.mem_cons_self) .whole
  refine ⟨read, empty, ?_, eval_of_never_occurs denied, rfl, rfl, rfl⟩
  intro flat
  exact (flat [] empty).1 rfl

end MapGate.Predicate
