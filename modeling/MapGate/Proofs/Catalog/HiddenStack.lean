import MapGate.Proofs.Access.Enforcement
import MapGate.Proofs.Catalog.FilterStack
import MapGate.Proofs.Catalog.Veto

/-!
What a veto anywhere in a stack of filtered managers comes to. The limits of a vetoed entity do not
depend on the caller or on the delegate. Those of a workspace, layer or resource stay hidden in every
intersection, whatever the other members carry.
-/
namespace MapGate.Catalog

namespace AccessManager

theorem limits_stack (delegate : AccessManager) (levels : List (List Filter)) (caller : Caller)
    (e : Entity) : (stack delegate levels).limits caller e =
      if ∃ filters ∈ levels, Vetoed filters e then some e.vetoLimits
      else delegate.limits caller e := by
  induction levels generalizing delegate with
  | nil => simp [stack]
  | cons filters outer ih =>
    rw [stack, ih, limits_filtered]
    by_cases above : ∃ filters ∈ outer, Vetoed filters e
    · rw [if_pos above, if_pos (List.exists_mem_cons_of_exists above)]
    · by_cases here : Vetoed filters e
      · rw [if_neg above, if_pos here, if_pos ⟨filters, List.mem_cons_self, here⟩]
      · simp [above, here]

end AccessManager

theorem canWrite_hideLimits (kind : ResourceKind) : (hideLimits kind).canWrite = false := by
  cases kind <;> rfl

theorem canWrite_vetoLimits_of_deniable {e : Entity} (deniable : e.kind.deniable = true) :
    e.vetoLimits.canWrite = false := by
  cases e with
  | workspace w => rfl
  | layer l => exact canWrite_hideLimits l.resource.kind
  | resource r => exact canWrite_hideLimits r.kind
  | style | layerGroup => contradiction

/-- Limits under which nothing is shown, and the resource is not given away by a challenge. -/
structure Conceals (r : Limits) : Prop where
  mode : r.mode = .hide
  canRead : r.canRead = false
  canWrite : r.canWrite = false
  level : ∀ mixed, (Policy.ofLimits (some r) mixed).level = .hidden
  response : ∀ mixed, (Policy.ofLimits (some r) mixed).response = .hide

theorem conceals_of_noLooser {e : Entity} (deniable : e.kind.deniable = true) {r : Limits}
    (tight : NoLooser r e.vetoLimits) : Conceals r := by
  have mode : r.mode = .hide := Mode.eq_hide_of_rank (mode_vetoLimits e ▸ tight.mode)
  have unreadable : r.canRead = false := by
    have denied := canRead_vetoLimits e
    rw [deniable, Bool.not_true] at denied
    exact Bool.eq_false_iff.mpr fun read => by simp [tight.canRead read] at denied
  have unwritable : r.canWrite = false := by
    have denied := canWrite_vetoLimits_of_deniable deniable
    exact Bool.eq_false_iff.mpr fun write => by simp [tight.canWrite write] at denied
  constructor
  case mode => exact mode
  case canRead => exact unreadable
  case canWrite => exact unwritable
  case level =>
    intro mixed
    rw [Policy.level_ofLimits, unreadable, unwritable, mode]
    cases mixed <;> rfl
  case response => exact Policy.response_ofLimits_hide mode

/-- A workspace, layer or resource that some level of a stack hides has the same limits for every
caller and delegate, and these conceal it also after an intersection with other limits of their
kind, at whatever place of the list they stand. -/
theorem hidden_stays_hidden [Clipping] {levels : List (List Filter)} {e : Entity}
    (deniable : e.kind.deniable = true) (hidden : ∃ filters ∈ levels, Vetoed filters e) :
    (∀ delegate caller,
      (AccessManager.stack delegate levels).limits caller e = some e.vetoLimits) ∧
    ∀ before after, (∀ l ∈ before ++ after, l.kind = e.vetoLimits.kind) →
      ∃ r, Limits.interAll (before ++ e.vetoLimits :: after) = .ok (some r) ∧ Conceals r := by
  constructor
  · intro delegate caller
    rw [AccessManager.limits_stack, if_pos hidden]
  · intro before after others
    have same : ∀ l ∈ before ++ e.vetoLimits :: after, l.kind = e.vetoLimits.kind := by
      intro l member
      rcases List.mem_append.mp member with first | last
      · exact others l (List.mem_append_left _ first)
      · rcases List.mem_cons.mp last with rfl | later
        · rfl
        · exact others l (List.mem_append_right _ later)
    obtain ⟨r, run, tight⟩ := interAll_noLooser (by simp) same
    exact ⟨r, run, conceals_of_noLooser deniable (tight _ (by simp))⟩

/-- A layer hidden through its resource at the inner one of two levels, and intersected with limits
that permit everything in other modes. -/
theorem hidden_stays_hidden_layer :
    let vault : Filter := { name := "vault", hideResource := some fun r => r.workspace == "vault" }
    let levels : List (List Filter) := [[vault], [{ name := "styles" }]]
    let e : Entity := .layer (.ofResource ⟨"dem", "vault", .coverage⟩)
    let before : List Limits := [.coverage { mode := .challenge, readerParams := some [] }]
    let after : List Limits :=
      [.coverage { mode := .mixed, roi := some (Region.rectangle 0 0 1 1) }]
    e.kind.deniable = true ∧ (∃ filters ∈ levels, Vetoed filters e) ∧
      (AccessManager.stack .allowAll levels).limits {} e = some e.vetoLimits ∧
      (∀ l ∈ before ++ after, l.kind = e.vetoLimits.kind) ∧
      ∃ r, Limits.interAll (before ++ e.vetoLimits :: after) = .ok (some r) ∧ Conceals r := by
  intro vault levels e before after
  have hidden : ∃ filters ∈ levels, Vetoed filters e := by decide
  have others : ∀ l ∈ before ++ after, l.kind = e.vetoLimits.kind := by
    simp [before, after, e, Limits.kind, Entity.vetoLimits, hideLimits, Layer.ofResource]
  obtain ⟨fixed, absorbs⟩ := hidden_stays_hidden (e := e) rfl hidden
  exact ⟨rfl, hidden, fixed .allowAll {}, others, absorbs before after others⟩

end MapGate.Catalog
