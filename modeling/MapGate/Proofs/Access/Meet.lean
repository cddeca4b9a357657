import Mathlib.Data.List.Induction
import Mathlib.Data.Option.NAry
import MapGate.Proofs.Access.JointLimits

/-!
One step of the intersection of access limits. `IsMeet` lists every field of the result in terms of
the operands, so that later facts need not look at the eight kinds. Whatever holds of single limits
and is kept by such steps holds of the intersection of every list of one kind.
-/
namespace MapGate

/-- One step of the intersection: `c` is what `a` and `b` have in common, field by field. -/
structure IsMeet [Clipping] (a b c : Limits) : Prop where
  kind_left : a.kind = c.kind
  kind_right : b.kind = c.kind
  mode : c.mode = a.mode.inter b.mode
  roi : c.roi? = interRegions a.roi? b.roi?
  clipRegion : c.clipRegion? = interRegions a.clipRegion? b.clipRegion?
  intersectRegion : c.intersectRegion? = interRegions a.intersectRegion? b.intersectRegion?
  readFilter : c.readFilter? =
    (Option.map₂ Predicate.and a.readFilter? b.readFilter?).map (denyOnEmpty · c.roi?)
  writeFilter : c.writeFilter? = Option.map₂ Predicate.and a.writeFilter? b.writeFilter?
  readNames : c.readAttributes? = interAttributes a.readAttributes? b.readAttributes?
  writeNames : c.writeAttributes? = interAttributes a.writeAttributes? b.writeAttributes?
  readerParams : c.readerParams? = interReaderParams a.readerParams? b.readerParams?
  featureInfo : c.featureInfo = (a.featureInfo && b.featureInfo)
  readable : c.readable = (a.readable && b.readable)
  writable : c.writable = (a.writable && b.writable)
  adminable : c.adminable = (a.adminable && b.adminable)
  canRead : c.canRead = (a.canRead && b.canRead && !c.roi?.any Region.isEmpty)
  canWrite : c.canWrite = (a.canWrite && b.canWrite && !c.roi?.any Region.isEmpty)

theorem isNever_denyOnEmpty (p : Predicate) (roi : Option Region) :
    (denyOnEmpty p roi).isNever = (p.isNever || roi.any Region.isEmpty) := by
  cases roi with
  | none => simp [denyOnEmpty]
  | some region =>
    by_cases empty : region.isEmpty = true <;> simp [denyOnEmpty, empty, Predicate.isNever]

theorem denyOnEmpty_open {roi : Option Region} (covered : roi.any Region.isEmpty = false)
    (p : Predicate) : denyOnEmpty p roi = p := by
  cases roi with
  | none => rfl
  | some region => simp_all [denyOnEmpty]

theorem denyOnEmpty_out {roi : Option Region} (out : roi.any Region.isEmpty = true)
    (p : Predicate) : denyOnEmpty p roi = .never := by
  cases roi with
  | none => simp at out
  | some region => simp_all [denyOnEmpty]

theorem denyOnEmpty_never (roi : Option Region) : denyOnEmpty .never roi = .never := by
  cases roi <;> simp [denyOnEmpty]

theorem inter_isMeet [Clipping] {a b : Limits} (same : a.kind = b.kind) :
    ∃ c, a.inter b = .ok c ∧ IsMeet a b c := by
  cases a <;> cases b <;> simp only [Limits.kind, reduceCtorEq] at same
  all_goals
    refine ⟨_, rfl, rfl, rfl, rfl, rfl, rfl, rfl, rfl, rfl, rfl, rfl, rfl, rfl, rfl, rfl, rfl,
      ?_, ?_⟩
    all_goals simp [Limits.canRead, Limits.canWrite, Limits.readFilter?, Limits.roi?,
      DataLimits.inter, VectorLimits.inter, CoverageLimits.inter, WmsLimits.inter, WmtsLimits.inter,
      WorkspaceLimits.inter, Predicate.isNever_and, isNever_denyOnEmpty]

theorem readFilter_isSome_of_kind {a b : Limits} (same : a.kind = b.kind) :
    a.readFilter?.isSome = b.readFilter?.isSome := by
  cases a <;> cases b <;> first | rfl | contradiction

theorem roi_kind {l : Limits} (out : l.roi?.any Region.isEmpty = true) :
    l.kind = .coverage ∨ l.kind = .wms ∨ l.kind = .wmts := by
  cases l <;> simp_all [Limits.roi?, Limits.kind]

theorem readFilter_of_raster {l : Limits}
    (raster : l.kind = .coverage ∨ l.kind = .wms ∨ l.kind = .wmts) :
    l.readFilter?.isSome = true := by
  cases l <;> simp_all [Limits.readFilter?, Limits.kind]

theorem writeFilter_isSome_of_kind {a b : Limits} (same : a.kind = b.kind) :
    a.writeFilter?.isSome = b.writeFilter?.isSome := by
  cases a <;> cases b <;> first | rfl | contradiction

theorem both_hold_iff (truth : String → Bool) {x y : Option Predicate}
    (same : x.isSome = y.isSome) :
    (∀ p ∈ Option.map₂ Predicate.and x y, p.eval truth = true) ↔
      (∀ p ∈ x, p.eval truth = true) ∧ ∀ q ∈ y, q.eval truth = true := by
  cases x <;> cases y <;> simp_all [Predicate.eval_and]

namespace IsMeet

variable [Clipping] {a b c : Limits}

theorem same_kind (meet : IsMeet a b c) : a.kind = b.kind :=
  meet.kind_left.trans meet.kind_right.symm

theorem reads (meet : IsMeet a b c) (covered : c.roi?.any Region.isEmpty = false)
    (truth : String → Bool) : c.Reads truth ↔ a.Reads truth ∧ b.Reads truth := by
  have unchanged : (denyOnEmpty · c.roi?) = id := funext (denyOnEmpty_open covered)
  unfold Limits.Reads
  rw [meet.readFilter, unchanged, Option.map_id_fun, id]
  exact both_hold_iff truth (readFilter_isSome_of_kind meet.same_kind)

theorem writes (meet : IsMeet a b c) (truth : String → Bool) :
    c.Writes truth ↔ a.Writes truth ∧ b.Writes truth := by
  unfold Limits.Writes
  rw [meet.writeFilter]
  exact both_hold_iff truth (writeFilter_isSome_of_kind meet.same_kind)

theorem denied (meet : IsMeet a b c) (out : c.roi?.any Region.isEmpty = true) :
    c.readFilter? = some .never := by
  have present := readFilter_of_raster (roi_kind out)
  rw [meet.readFilter] at present ⊢
  cases filter : Option.map₂ Predicate.and a.readFilter? b.readFilter? with
  | none => simp [filter] at present
  | some p => exact congrArg some (denyOnEmpty_out out p)

theorem stays_denied (meet : IsMeet a b c) (before : a.readFilter? = some .never) :
    c.readFilter? = some .never := by
  have same := readFilter_isSome_of_kind meet.same_kind
  rw [before] at same
  obtain ⟨q, right⟩ := Option.isSome_iff_exists.mp same.symm
  rw [meet.readFilter, before, right]
  exact congrArg some (denyOnEmpty_never c.roi?)

end IsMeet

section Fold

variable [Clipping]

theorem interAll_single (l : Limits) : Limits.interAll [l] = .ok (some l) := rfl

theorem interAll_concat (ls : List Limits) (last : Limits) :
    Limits.interAll (ls ++ [last]) =
      (Limits.interAll ls).bind fun x => Limits.interOptional x (some last) := by
  unfold Limits.interAll
  rw [List.foldlM_append]
  simp only [List.foldlM_cons, List.foldlM_nil, bind_pure]
  rfl

theorem interOptional_some {a b c : Limits} (step : a.inter b = .ok c) :
    Limits.interOptional (some a) (some b) = .ok (some c) := by
  rw [Limits.interOptional, step]
  rfl

theorem interAll_snoc {ls : List Limits} {r l c : Limits}
    (before : Limits.interAll ls = .ok (some r)) (step : r.inter l = .ok c) :
    Limits.interAll (ls ++ [l]) = .ok (some c) := by
  rw [interAll_concat, before]
  exact interOptional_some step

/-- The fold over a list, as an induction on its last member. -/
theorem interAll_induction {P : List Limits → Limits → Prop} (single : ∀ l, P [l] l)
    (more : ∀ ls r l c, ls ≠ [] → P ls r → IsMeet r l c → P (ls ++ [l]) c)
    {kind : LimitsKind} {ls : List Limits} (nonempty : ls ≠ []) (same : ∀ l ∈ ls, l.kind = kind) :
    ∃ r, Limits.interAll ls = .ok (some r) ∧ r.kind = kind ∧ P ls r := by
  induction ls using List.reverseRecOn with
  | nil => contradiction
  | append_singleton ls l ih =>
    have last : l.kind = kind := same l (by simp)
    by_cases empty : ls = []
    · subst empty
      exact ⟨l, interAll_single l, last, single l⟩
    · obtain ⟨r, run, sort, holds⟩ := ih empty (fun m member => same m (by simp [member]))
      obtain ⟨c, step, meet⟩ := inter_isMeet (sort.trans last.symm)
      exact ⟨c, interAll_snoc run step, meet.kind_left ▸ sort, more ls r l c empty holds meet⟩

end Fold
end MapGate
