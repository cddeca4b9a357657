import MapGate.Proofs.Access.Intersection
import MapGate.Proofs.Access.Restrictiveness

/-!
What the policy of an intersection enforces. It carries the intersected limits and allows exactly
the reading and writing that they allow. One member in hide mode is enough that no response reveals
the resource, and members that are all in challenge mode always lead to a challenge.
-/
namespace MapGate

theorem Mode.eq_hide_of_rank {m : Mode} (least : m.rank ≤ hide.rank) : m = .hide := by
  cases m with
  | hide => rfl
  | mixed | challenge => contradiction

namespace Policy

theorem response_ofLimits_challenge {l : Limits} (mode : l.mode = .challenge)
    (mixed : MixedBehavior) : (ofLimits (some l) mixed).response = .challenge := by
  rw [response_ofLimits, mode]
  cases mixed <;> simp [conceals]

theorem isHidden_ofLimits (l : Limits) (mixed : MixedBehavior) :
    (ofLimits (some l) mixed).isHidden = (!l.canRead && conceals mixed l.mode) := by
  rw [isHidden, level_ofLimits]
  cases l.canRead <;> cases l.canWrite <;> cases conceals mixed l.mode <;> rfl

theorem canRead_ofLimits (l : Limits) (mixed : MixedBehavior) :
    (ofLimits (some l) mixed).canRead = l.canRead := by
  rw [canRead, level_ofLimits]
  cases l.canRead <;> cases l.canWrite <;> cases conceals mixed l.mode <;> rfl

theorem canWrite_ofLimits (l : Limits) (mixed : MixedBehavior) :
    (ofLimits (some l) mixed).canWrite = (l.canRead && l.canWrite) := by
  rw [canWrite, level_ofLimits]
  cases l.canRead <;> cases l.canWrite <;> cases conceals mixed l.mode <;> rfl

end Policy

/-- What a policy does with the intersection `r` of a list. -/
structure Enforces (ls : List Limits) (r : Limits) (p : Policy) : Prop where
  hides : (∃ l ∈ ls, l.mode = .hide) → p.response = .hide
  challenges : (∀ l ∈ ls, l.mode = .challenge) → p.response = .challenge ∧ p.isHidden = false
  canRead : p.canRead = r.canRead
  canWrite : p.canWrite = (r.canRead && r.canWrite)
  limits : p.limits = some r

theorem policy_of_intersection_enforces [Clipping] {ls : List Limits} {kind : LimitsKind}
    (nonempty : ls ≠ []) (same : ∀ l ∈ ls, l.kind = kind) :
    ∃ r, Limits.interAll ls = .ok (some r) ∧ ∀ mixed, Enforces ls r (.ofLimits (some r) mixed) := by
  obtain ⟨r, run, _, joint⟩ :=
    interAll_induction isJoint_single (fun _ _ _ _ => isJoint_snoc) nonempty same
  refine ⟨r, run, fun mixed => ?_⟩
  constructor
  case hides =>
    rintro ⟨l, member, mode⟩
    have least := joint.mode_least l member
    rw [mode] at least
    exact Policy.response_ofLimits_hide (Mode.eq_hide_of_rank least) mixed
  case challenges =>
    intro all
    obtain ⟨l, member, equal⟩ := joint.mode_mem
    have mode : r.mode = .challenge := equal.symm.trans (all l member)
    refine ⟨Policy.response_ofLimits_challenge mode mixed, ?_⟩
    rw [Policy.isHidden_ofLimits, mode]
    cases mixed <;> simp [Policy.conceals]
  case canRead => exact Policy.canRead_ofLimits r mixed
  case canWrite => exact Policy.canWrite_ofLimits r mixed
  case limits => exact Policy.limits_ofLimits r mixed

/-- Cascaded layers without a common region of interest, one of them in hide mode, and workspaces
that may not be read, all in challenge mode. -/
theorem policy_of_intersection_enforces_unreadable :
    let maps : List Limits := [
      .wms { mode := .challenge, roi := some (Region.rectangle 0 0 1 1) },
      .wms { mode := .hide, readFilter := .expr "public" },
      .wms { mode := .mixed, roi := some (Region.rectangle 2 2 3 3) }]
    let workspaces : List Limits := [
      .workspace ⟨.challenge, true, true, false⟩, .workspace ⟨.challenge, false, true, true⟩]
    (maps ≠ [] ∧ (∀ l ∈ maps, l.kind = .wms) ∧
      ∃ r, Limits.interAll maps = .ok (some r) ∧
        (Policy.ofLimits (some r) .challenge).response = .hide) ∧
    (workspaces ≠ [] ∧ (∀ l ∈ workspaces, l.kind = .workspace) ∧
      ∃ r, Limits.interAll workspaces = .ok (some r) ∧
        (Policy.ofLimits (some r) .hide).response = .challenge ∧
        (Policy.ofLimits (some r) .hide).canWrite = (r.canRead && r.canWrite)) := by
  intro maps workspaces
  have some_map : maps ≠ [] := List.cons_ne_nil _ _
  have all_maps : ∀ l ∈ maps, l.kind = .wms := by simp [maps, Limits.kind]
  have some_workspace : workspaces ≠ [] := List.cons_ne_nil _ _
  have all_workspaces : ∀ l ∈ workspaces, l.kind = .workspace := by simp [workspaces, Limits.kind]
  obtain ⟨m, meet, enforced⟩ := policy_of_intersection_enforces some_map all_maps
  obtain ⟨w, common, kept⟩ := policy_of_intersection_enforces some_workspace all_workspaces
  have hides : ∃ l ∈ maps, l.mode = .hide := by simp [maps, Limits.mode]
  have challenges : ∀ l ∈ workspaces, l.mode = .challenge := by simp [workspaces, Limits.mode]
  exact ⟨⟨some_map, all_maps, m, meet, (enforced .challenge).hides hides⟩,
    some_workspace, all_workspaces, w, common, ((kept .hide).challenges challenges).1,
    (kept .hide).canWrite⟩

end MapGate
