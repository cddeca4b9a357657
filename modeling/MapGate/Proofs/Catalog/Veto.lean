import MapGate.Catalog.AccessManager
import MapGate.Proofs.Access.Restrictiveness

/-!
What a veto of catalog filters comes to. A vetoed entity gets limits that depend on its shape alone,
whoever asks and whatever the delegate says. For workspaces, layers and resources their policy is a
hidden one. Limits of styles and layer groups cannot deny reading, so there the veto leaves full
access and shows only in the mode and the response.
-/
namespace MapGate.Catalog

/-- Some filter hides the entity, or the resource of the layer that it is. -/
def Vetoed (filters : List Filter) (e : Entity) : Prop :=
  ∃ f ∈ filters, f.hides e = true ∨ ∃ r ∈ e.resource?, f.hides (.resource r) = true

instance (filters : List Filter) (e : Entity) : Decidable (Vetoed filters e) :=
  inferInstanceAs (Decidable (∃ f ∈ filters, _ ∨ _))

/-- Whether limits for entities of a kind can deny reading. -/
def EntityKind.deniable : EntityKind → Bool
  | workspace | layer | resource => true
  | style | layerGroup => false

def Entity.vetoLimits : Entity → Limits
  | workspace _ => .workspace ⟨.hide, false, false, false⟩
  | layer l => hideLimits l.resource.kind
  | resource r => hideLimits r.kind
  | style _ => .style ⟨.hide⟩
  | layerGroup _ => .layerGroup ⟨.hide⟩

theorem vetoed_iff (filters : List Filter) (e : Entity) :
    Vetoed filters e ↔
      hiddenBy filters e = true ∨ ∃ r ∈ e.resource?, hiddenBy filters (.resource r) = true := by
  simp only [Vetoed, hiddenBy, List.any_eq_true]
  constructor
  · intro vetoed
    obtain ⟨f, listed, hides | ⟨r, part, hides⟩⟩ := vetoed
    · exact .inl ⟨f, listed, hides⟩
    · exact .inr ⟨r, part, f, listed, hides⟩
  · intro hidden
    rcases hidden with ⟨f, listed, hides⟩ | ⟨r, part, f, listed, hides⟩
    · exact ⟨f, listed, .inl hides⟩
    · exact ⟨f, listed, .inr ⟨r, part, hides⟩⟩

theorem limits_filtered (filters : List Filter) (delegate : AccessManager) (caller : Caller)
    (e : Entity) : (delegate.filtered filters).limits caller e =
      if Vetoed filters e then some e.vetoLimits else delegate.limits caller e := by
  simp only [vetoed_iff]
  cases e with
  | layer l | resource r =>
    simp [AccessManager.limits, AccessManager.filtered, Entity.resource?, Entity.vetoLimits]
  | workspace w | style s | layerGroup g =>
    simp [AccessManager.limits, AccessManager.filtered, Entity.resource?, Entity.vetoLimits,
      apply_ite (Option.map _)]

theorem mode_hideLimits (kind : ResourceKind) : (hideLimits kind).mode = .hide := by
  cases kind <;> rfl

theorem canRead_hideLimits (kind : ResourceKind) : (hideLimits kind).canRead = false := by
  cases kind <;> rfl

theorem mode_vetoLimits (e : Entity) : e.vetoLimits.mode = .hide := by
  cases e with
  | layer l => exact mode_hideLimits l.resource.kind
  | resource r => exact mode_hideLimits r.kind
  | workspace | style | layerGroup => rfl

theorem canRead_vetoLimits (e : Entity) : e.vetoLimits.canRead = !e.kind.deniable := by
  cases e with
  | layer l => exact canRead_hideLimits l.resource.kind
  | resource r => exact canRead_hideLimits r.kind
  | workspace | style | layerGroup => rfl

theorem canWrite_vetoLimits {e : Entity} (undeniable : e.kind.deniable = false) :
    e.vetoLimits.canWrite = true := by
  cases e with
  | workspace | layer | resource => contradiction
  | style | layerGroup => rfl

theorem level_vetoLimits {e : Entity} (deniable : e.kind.deniable = true) (mixed : MixedBehavior) :
    (Policy.ofLimits (some e.vetoLimits) mixed).level = .hidden := by
  rw [Policy.level_ofLimits, canRead_vetoLimits, deniable, mode_vetoLimits]
  simp [Policy.levelOf, Policy.conceals]

structure VetoPolicy (e : Entity) (p : Policy) : Prop where
  mode : p.mode? = some .hide
  response : p.response = .hide
  hidden : e.kind.deniable = true →
    p.isHidden = true ∧ p.canRead = false ∧ p.canWrite = false
  undeniable : e.kind.deniable = false → p.level = .readWrite

/-- The policy of a vetoed workspace, layer or resource is hidden, for every caller and delegate and
in both mixed behaviours. A vetoed style or layer group stays accessible with a response that
hides. -/
theorem vetoed_policy {filters : List Filter} {e : Entity} (vetoed : Vetoed filters e)
    (delegate : AccessManager) (caller : Caller) (mixed : MixedBehavior) :
    VetoPolicy e (.ofLimits ((delegate.filtered filters).limits caller e) mixed) := by
  rw [limits_filtered, if_pos vetoed]
  have mode := mode_vetoLimits e
  have read := canRead_vetoLimits e
  have level := Policy.level_ofLimits e.vetoLimits mixed
  constructor
  case mode => rw [Policy.mode?_ofLimits, mode]
  case response => exact Policy.response_ofLimits_hide mode mixed
  case hidden =>
    intro deniable
    rw [deniable, Bool.not_true] at read
    rw [read, mode] at level
    simp [Policy.isHidden, Policy.canRead, Policy.canWrite, level, Policy.levelOf, Policy.conceals,
      AccessLevel.rank]
  case undeniable =>
    intro undeniable
    rw [undeniable, Bool.not_false] at read
    rw [level, read, canWrite_vetoLimits undeniable]
    rfl

/-- A layer of a kind without limits of its own, hidden through its resource by the second filter,
while the delegate grants everything. -/
theorem vetoed_policy_layer :
    let filters : List Filter := [{ name := "styles", hideStyle := some fun _ => true },
      { name := "vault", hideResource := some fun r => r.workspace == "vault" }]
    let e : Entity := .layer (.ofResource ⟨"plans", "vault", .other "archive"⟩)
    Vetoed filters e ∧ e.kind.deniable = true ∧
      (Policy.ofLimits ((AccessManager.allowAll.filtered filters).limits {} e) .challenge).isHidden =
        true := by
  intro filters e
  have vetoed : Vetoed filters e := by decide
  exact ⟨vetoed, rfl, ((vetoed_policy vetoed .allowAll {} .challenge).hidden rfl).1⟩

/-- Limits of styles and layer groups carry a mode only, so that a filter that hides one of them does
not hide its policy. -/
theorem vetoed_style_accessible :
    let filters : List Filter := [
      { name := "all", hideStyle := some fun _ => true, hideLayerGroup := some fun _ => true }]
    let style : Entity := .style ⟨"line", none⟩
    let group : Entity := .layerGroup ⟨"base", none, []⟩
    let policy (e : Entity) :=
      Policy.ofLimits ((AccessManager.allowAll.filtered filters).limits {} e) .hide
    (Vetoed filters style ∧ (policy style).isHidden = false ∧ (policy style).canRead = true ∧
      (policy style).canWrite = true) ∧
    (Vetoed filters group ∧ (policy group).isHidden = false ∧ (policy group).canRead = true ∧
      (policy group).canWrite = true) := by
  decide

end MapGate.Catalog
