import MapGate.Access.Limits
import MapGate.Proofs.Access.Conjunction

/-!
The normal form of predicates that are put together by conjunction. However they are nested, they
come out as a sentinel, an expression or a flat conjunction of at least two expressions. A predicate
in normal form is a tautology or a contradiction only as the sentinel, so a look at its outermost
constructor decides whether anything may be read.
-/
namespace MapGate.Predicate

/-- Predicates that are put together from the sentinels and from expressions. -/
inductive Built : Predicate → Prop where
  | always : Built always
  | never : Built never
  | expr (text : String) : Built (expr text)
  | and {p q : Predicate} (left : Built p) (right : Built q) : Built (p.and q)
  | andAll {ps : List Predicate} (each : ∀ p ∈ ps, Built p) : Built (andAll ps)

/-- Whether `q` stands somewhere in a predicate, as the whole of it or as a part of a part. -/
inductive OccursIn (q : Predicate) : Predicate → Prop where
  | whole : OccursIn q q
  | part {p : Predicate} {ps : List Predicate} (member : p ∈ ps) (deeper : OccursIn q p) :
      OccursIn q (conj ps)

def IsExpr (p : Predicate) : Prop := ∃ text, p = expr text

inductive Normal : Predicate → Prop where
  | always : Normal always
  | never : Normal never
  | expr (text : String) : Normal (expr text)
  | conj {ps : List Predicate} (several : 2 ≤ ps.length) (flat : ∀ p ∈ ps, IsExpr p) :
      Normal (conj ps)

/-- What a normal predicate other than the sentinels adds to a conjunction. -/
theorem Normal.parts {p : Predicate} (normal : Normal p) (proper : p.Proper) :
    1 ≤ p.parts.length ∧ ∀ q ∈ p.parts, IsExpr q := by
  cases normal with
  | always => exact absurd rfl proper.1
  | never => exact absurd rfl proper.2
  | expr text =>
    refine ⟨Nat.le_refl 1, ?_⟩
    intro q member
    exact ⟨text, List.mem_singleton.mp member⟩
  | conj several flat => exact ⟨Nat.le_of_succ_le several, flat⟩

theorem Normal.and {p q : Predicate} (left : Normal p) (right : Normal q) : Normal (p.and q) := by
  rcases p.sentinel_or_proper with rfl | rfl | first
  · rwa [always_and]
  · rw [never_and]
    exact .never
  rcases q.sentinel_or_proper with rfl | rfl | second
  · rwa [and_always]
  · rw [and_never]
    exact .never
  obtain ⟨one, flat⟩ := left.parts first
  obtain ⟨another, alsoFlat⟩ := right.parts second
  rw [and_of_proper first second]
  apply Normal.conj
  · rw [List.length_append]
    omega
  · rw [List.forall_mem_append]
    exact ⟨flat, alsoFlat⟩

theorem Normal.andAll {ps : List Predicate} (each : ∀ p ∈ ps, Normal p) : Normal (andAll ps) := by
  induction ps using List.reverseRecOn with
  | nil => exact .always
  | append_singleton ps last ih =>
    rw [List.forall_mem_append, List.forall_mem_singleton] at each
    rw [andAll_concat]
    exact (ih each.1).and each.2

theorem Built.normal {p : Predicate} (built : Built p) : Normal p := by
  induction built with
  | always => exact .always
  | never => exact .never
  | expr text => exact .expr text
  | and left right first second => exact first.and second
  | andAll each normal => exact Normal.andAll normal

namespace Normal

variable {p : Predicate}

theorem conjunctions (normal : Normal p) {ps : List Predicate} (occurs : OccursIn (.conj ps) p) :
    2 ≤ ps.length ∧ ∀ q ∈ ps, IsExpr q := by
  cases occurs with
  | whole =>
    cases normal with
    | conj several flat => exact ⟨several, flat⟩
  | part member deeper =>
    -- the parts are expressions, in which no conjunction stands
    cases normal with
    | conj several flat =>
      obtain ⟨text, rfl⟩ := flat _ member
      cases deeper

theorem satisfiable (normal : Normal p) (other : p ≠ .never) : p.eval (fun _ => true) = true := by
  cases normal with
  | always => simp [eval]
  | never => exact absurd rfl other
  | expr text => simp [eval]
  | conj several flat =>
    rw [eval_conj_iff]
    intro q member
    obtain ⟨text, rfl⟩ := flat q member
    simp [eval]

theorem refutable (normal : Normal p) (other : p ≠ .always) :
    p.eval (fun _ => false) = false := by
  cases normal with
  | always => exact absurd rfl other
  | never => simp [eval]
  | expr text => simp [eval]
  | @conj ps several flat =>
    -- a conjunction in normal form has a first part
    cases ps with
    | nil => contradiction
    | cons q rest =>
      obtain ⟨text, rfl⟩ := flat q List.mem_cons_self
      simp [eval, evalAll]

theorem isNever_iff (normal : Normal p) :
    p.isNever = true ↔ ∀ truth, p.eval truth = false := by
  constructor
  · intro denied truth
    cases p <;> simp_all [isNever, eval]
  · intro denied
    by_cases sentinel : p = .never
    · rw [sentinel]
      rfl
    · have holds := normal.satisfiable sentinel
      rw [denied] at holds
      contradiction

theorem isAlways_iff (normal : Normal p) :
    p.isAlways = true ↔ ∀ truth, p.eval truth = true := by
  constructor
  · intro granted truth
    cases p <;> simp_all [isAlways, eval]
  · intro granted
    by_cases sentinel : p = .always
    · rw [sentinel]
      rfl
    · have fails := normal.refutable sentinel
      rw [granted] at fails
      contradiction

end Normal

theorem canRead_of_readFilter {l : Limits} {p : Predicate} (filter : l.readFilter? = some p) :
    l.canRead = !p.isNever := by
  cases l with
  | data | vector | coverage | wms | wmts =>
    obtain rfl := Option.some.inj filter
    rfl
  | workspace | style | layerGroup => cases filter

/-- What the outermost constructor of a predicate tells of it, and of limits with it as filter. -/
structure DecidedByForm (p : Predicate) : Prop where
  conjunctions : ∀ ps, OccursIn (conj ps) p → 2 ≤ ps.length ∧ ∀ q ∈ ps, IsExpr q
  isNever : p.isNever = true ↔ ∀ truth, p.eval truth = false
  isAlways : p.isAlways = true ↔ ∀ truth, p.eval truth = true
  canRead : ∀ l : Limits, l.readFilter? = some p →
    (l.canRead = false ↔ ∀ truth, p.eval truth = false)

/-- A predicate put together by conjunction, in whatever nesting, denies everything only as
`never` and grants everything only as `always`. -/
theorem built_decidedByForm {p : Predicate} (built : Built p) : DecidedByForm p := by
  have normal := built.normal
  constructor
  case conjunctions =>
    intro ps occurs
    exact normal.conjunctions occurs
  case isNever => exact normal.isNever_iff
  case isAlways => exact normal.isAlways_iff
  case canRead =>
    intro l filter
    rw [canRead_of_readFilter filter, Bool.not_eq_false']
    exact normal.isNever_iff

/-- Conjunctions of conjunctions of expressions, with `always` among them and an empty list. -/
theorem built_decidedByForm_nested :
    let p : Predicate :=
      ((expr "a").and always).and (andAll [expr "b", andAll [], (expr "c").and (expr "d")])
    Built p ∧ p = conj [expr "a", expr "b", expr "c", expr "d"] ∧ DecidedByForm p ∧
      (Limits.coverage { mode := .hide, readFilter := p }).canRead = true := by
  intro p
  have inner : ∀ q ∈ [expr "b", andAll [], (expr "c").and (expr "d")], Built q := by
    have nothing : Built (andAll []) := .andAll (by simp)
    have pair : Built ((expr "c").and (expr "d")) := .and (.expr "c") (.expr "d")
    simp [nothing, pair, Built.expr]
  have built : Built p := .and (.and (.expr "a") .always) (.andAll inner)
  exact ⟨built, rfl, built_decidedByForm built, rfl⟩

end MapGate.Predicate
