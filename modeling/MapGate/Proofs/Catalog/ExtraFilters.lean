import MapGate.Proofs.Catalog.Veto

/-!
Catalog filters only restrict. With filters inserted anywhere into a list, no entity gets a less
restrictive policy, although a veto replaces the delegate's limits and does not intersect with them,
and no query predicate becomes true of more.
-/
namespace MapGate.Catalog

theorem Vetoed.mono {shorter longer : List Filter} {e : Entity} (more : shorter ⊆ longer)
    (vetoed : Vetoed shorter e) : Vetoed longer e := by
  obtain ⟨f, listed, hides⟩ := vetoed
  exact ⟨f, more listed, hides⟩

theorem eval_restrict (truth : String → Bool) (filters : List Filter) (kind : EntityKind)
    (delegate : Predicate) : (restrict filters kind delegate).eval truth =
      (delegate.eval truth && filters.all fun f => (f.predicate kind).eval truth) := by
  induction filters generalizing delegate with
  | nil => simp [restrict]
  | cons f rest ih =>
    rw [restrict, List.foldl_cons, ← restrict, ih, Predicate.eval_and, List.all_cons,
      Bool.and_assoc]

theorem eval_securityFilter (truth : String → Bool) (filters : List Filter)
    (delegate : AccessManager) (caller : Caller) (kind : EntityKind) :
    ((delegate.filtered filters).securityFilter caller kind).eval truth =
      ((delegate.securityFilter caller kind).eval truth &&
        filters.all fun f => (f.predicate kind).eval truth) :=
  eval_restrict truth filters kind (delegate.securityFilter caller kind)

theorem accessible_of_undeniable {e : Entity} (undeniable : e.kind.deniable = false)
    (m : AccessManager) (caller : Caller) :
    ∀ l ∈ m.limits caller e, l.canRead = true ∧ l.canWrite = true := by
  intro l found
  cases e with
  | workspace | layer | resource => contradiction
  | style s | layerGroup g =>
    obtain ⟨only, _, rfl⟩ := Option.map_eq_some_iff.mp found
    exact ⟨rfl, rfl⟩

/-- Whatever a manager says of a style or a layer group, it leaves full access. -/
theorem level_of_undeniable {e : Entity} (undeniable : e.kind.deniable = false)
    (m : AccessManager) (caller : Caller) (mixed : MixedBehavior) :
    (Policy.ofLimits (m.limits caller e) mixed).level = .readWrite := by
  have accessible := accessible_of_undeniable undeniable m caller
  cases found : m.limits caller e with
  | none => rfl
  | some l =>
    obtain ⟨read, write⟩ := accessible l found
    rw [Policy.level_ofLimits, read, write]
    rfl

/-- The limits of a veto lead to the most restrictive policy that an entity can get. -/
theorem vetoLimits_atLeast (e : Entity) (m : AccessManager) (caller : Caller)
    (mixed : MixedBehavior) : (Policy.ofLimits (some e.vetoLimits) mixed).AtLeast
      (.ofLimits (m.limits caller e) mixed) := by
  rw [Policy.atLeast_iff, Policy.mode?_ofLimits, mode_vetoLimits]
  have least : Policy.modeRank (some .hide) = 0 := rfl
  cases deniable : e.kind.deniable with
  | true =>
    have bottom : AccessLevel.hidden.rank = 0 := rfl
    rw [level_vetoLimits deniable]
    omega
  | false =>
    -- these limits cannot deny anything, so that only the modes are compared
    have read := canRead_vetoLimits e
    rw [deniable, Bool.not_false] at read
    rw [Policy.level_ofLimits, read, canWrite_vetoLimits deniable,
      level_of_undeniable deniable m caller mixed, Policy.levelOf]
    omega

/-- Filters inserted into a list never make the policy of an entity less restrictive, whatever the
delegate answers, and the predicate for queries stays at least as strong. -/
theorem extra_filters_restrict {shorter longer : List Filter} (inserted : shorter.Sublist longer)
    (delegate : AccessManager) (caller : Caller) :
    (∀ e mixed, Policy.compareRestriction
      (.ofLimits ((delegate.filtered longer).limits caller e) mixed)
      (.ofLimits ((delegate.filtered shorter).limits caller e) mixed) ≠ .gt) ∧
    ∀ kind truth, ((delegate.filtered longer).securityFilter caller kind).eval truth = true →
      ((delegate.filtered shorter).securityFilter caller kind).eval truth = true := by
  have more : shorter ⊆ longer := inserted.subset
  constructor
  · intro e mixed
    by_cases vetoed : Vetoed longer e
    · rw [limits_filtered longer, if_pos vetoed]
      exact vetoLimits_atLeast e (delegate.filtered shorter) caller mixed
    · have shown : ¬Vetoed shorter e := fun before => vetoed (before.mono more)
      rw [limits_filtered, limits_filtered, if_neg vetoed, if_neg shown]
      exact Policy.AtLeast.refl _
  · intro kind truth holds
    rw [eval_securityFilter, Bool.and_eq_true, List.all_eq_true] at holds ⊢
    exact ⟨holds.1, fun f listed => holds.2 f (more listed)⟩

/-- A veto in front of and a predicate behind the only filter, before a delegate that answers for a
layer with limits of another kind and a challenge. -/
theorem extra_filters_restrict_layer :
    let tenant : Filter := { name := "tenant", securityFilter := some fun _ => .expr "tenant = 1" }
    let vault : Filter := { name := "vault", hideResource := some fun r => r.workspace == "vault" }
    let published : Filter :=
      { name := "published", securityFilter := some fun _ => .expr "published" }
    let delegate : AccessManager :=
      { AccessManager.allowAll with
        layerLimits := fun _ _ => some (.workspace ⟨.challenge, false, true, true⟩) }
    let shorter := [tenant]
    let longer := [vault, tenant, published]
    let e : Entity := .layer (.ofResource ⟨"plans", "vault", .wmtsLayer⟩)
    let policy (filters : List Filter) : Policy :=
      .ofLimits ((delegate.filtered filters).limits {} e) .challenge
    let query (filters : List Filter) : Predicate :=
      (delegate.filtered filters).securityFilter {} .layer
    shorter.Sublist longer ∧ Policy.compareRestriction (policy longer) (policy shorter) ≠ .gt ∧
      (query longer).eval (fun _ => true) = true ∧ (query shorter).eval (fun _ => true) = true := by
  intro tenant vault published delegate shorter longer e policy query
  have inserted : shorter.Sublist longer := ((List.nil_sublist [published]).cons_cons tenant).cons vault
  obtain ⟨tighter, implied⟩ := extra_filters_restrict inserted delegate {}
  have holds : (query longer).eval (fun _ => true) = true := by decide
  exact ⟨inserted, tighter e .challenge, holds, implied .layer _ holds⟩

end MapGate.Catalog
