import MapGate.Proofs.Access.Meet
import MapGate.Region.Overlay

/-!
The intersection of a list of access limits of one kind always exists and permits exactly what
every member permits. The proof follows the list from the left: the first member is joint with
itself, and each step keeps the limits joint with the members met so far. A step that leaves an empty
region of interest denies reading, but limits that stand alone are passed on as they are.
-/
namespace MapGate

theorem Mode.inter_choice (a b : Mode) : a.inter b = a ∨ a.inter b = b := by
  cases a <;> cases b <;> decide

theorem isJoint_single [Clipping] (l : Limits) : IsJoint [l] l where
  kind := by simp
  mode_mem := by simp
  mode_least := by simp
  roi := (jointRegion_single _).symm
  clipRegion := (jointRegion_single _).symm
  intersectRegion := (jointRegion_single _).symm
  readDenied := fun out => absurd out (not_roiRunsOut_single l)
  reads := by simp
  writes := by simp
  readNames := (jointNames_single _).symm
  writeNames := (jointNames_single _).symm
  readAdmits := by simp
  writeAdmits := by simp
  readerParams := (jointParams_single _).symm
  featureInfo := by simp
  readable := by simp
  writable := by simp
  adminable := by simp
  canRead := by simp [not_roiRunsOut_single]
  canWrite := by simp [not_roiRunsOut_single]
  raster := fun out => absurd out (not_roiRunsOut_single l)

theorem flag_snoc {flag : Limits → Bool} {ls : List Limits} {r l c : Limits}
    (meet : flag c = (flag r && flag l)) (joint : flag r = true ↔ ∀ m ∈ ls, flag m = true) :
    flag c = true ↔ ∀ m ∈ ls ++ [l], flag m = true := by
  rw [meet, Bool.and_eq_true, joint, List.forall_mem_append, List.forall_mem_singleton]

/-- A flag that every member and no empty region grants, split at the last member. -/
theorem access_snoc {before last empty : Bool} {all out : Prop}
    (holds : before = true ↔ all ∧ ¬out) :
    (before && last && !empty) = true ↔ (all ∧ last = true) ∧ ¬(out ∨ empty = true) := by
  rw [Bool.and_eq_true, Bool.and_eq_true, holds, not_or, Bool.not_eq_true', Bool.not_eq_true,
    and_and_and_comm, and_assoc, and_assoc]

theorem isJoint_snoc [Clipping] {ls : List Limits} {r l c : Limits} (nonempty : ls ≠ [])
    (joint : IsJoint ls r) (meet : IsMeet r l c) : IsJoint (ls ++ [l]) c := by
  have roi : c.roi? = jointRegion ((ls ++ [l]).map Limits.roi?) := by
    rw [meet.roi, joint.roi, List.map_append, List.map_singleton, jointRegion_snoc]
  have out : RoiRunsOut (ls ++ [l]) ↔ RoiRunsOut ls ∨ c.roi?.any Region.isEmpty = true := by
    rw [roiRunsOut_snoc nonempty, roi]
  have readNames : c.readAttributes? = jointNames ((ls ++ [l]).map Limits.readAttributes?) := by
    rw [meet.readNames, joint.readNames, List.map_append, List.map_singleton, jointNames_snoc]
  have writeNames : c.writeAttributes? = jointNames ((ls ++ [l]).map Limits.writeAttributes?) := by
    rw [meet.writeNames, joint.writeNames, List.map_append, List.map_singleton, jointNames_snoc]
  have rank : c.mode.rank = min r.mode.rank l.mode.rank := by rw [meet.mode, Mode.rank_inter]
  constructor
  case kind =>
    rw [List.forall_mem_append, List.forall_mem_singleton]
    exact ⟨fun m member => (joint.kind m member).trans meet.kind_left, meet.kind_right⟩
  case mode_mem =>
    rcases Mode.inter_choice r.mode l.mode with first | second
    · obtain ⟨m, member, equal⟩ := joint.mode_mem
      exact ⟨m, by simp [member], by rw [equal, meet.mode, first]⟩
    · exact ⟨l, by simp, by rw [meet.mode, second]⟩
  case mode_least =>
    rw [List.forall_mem_append, List.forall_mem_singleton, rank]
    constructor
    · intro m member
      have least := joint.mode_least m member
      omega
    · omega
  case roi => exact roi
  case clipRegion =>
    rw [meet.clipRegion, joint.clipRegion, List.map_append, List.map_singleton, jointRegion_snoc]
  case intersectRegion =>
    rw [meet.intersectRegion, joint.intersectRegion, List.map_append, List.map_singleton,
      jointRegion_snoc]
  case readDenied =>
    rw [out]
    rintro (before | now)
    · exact meet.stays_denied (joint.readDenied before)
    · exact meet.denied now
  case reads =>
    intro covered truth
    rw [out, not_or, Bool.not_eq_true] at covered
    rw [meet.reads covered.2, joint.reads covered.1, List.forall_mem_append,
      List.forall_mem_singleton]
  case writes =>
    intro truth
    rw [meet.writes, joint.writes, List.forall_mem_append, List.forall_mem_singleton]
  case readNames => exact readNames
  case writeNames => exact writeNames
  case readAdmits =>
    intro name
    rw [readNames, admits_jointNames, List.forall_mem_map]
  case writeAdmits =>
    intro name
    rw [writeNames, admits_jointNames, List.forall_mem_map]
  case readerParams =>
    rw [meet.readerParams, joint.readerParams, List.map_append, List.map_singleton,
      jointParams_snoc (by simpa using nonempty)]
  case featureInfo => exact flag_snoc meet.featureInfo joint.featureInfo
  case readable => exact flag_snoc meet.readable joint.readable
  case writable => exact flag_snoc meet.writable joint.writable
  case adminable => exact flag_snoc meet.adminable joint.adminable
  case canRead =>
    rw [meet.canRead, List.forall_mem_append, List.forall_mem_singleton, out]
    exact access_snoc joint.canRead
  case canWrite =>
    rw [meet.canWrite, List.forall_mem_append, List.forall_mem_singleton, out]
    exact access_snoc joint.canWrite
  case raster =>
    rw [out]
    rintro (before | now)
    · rw [← meet.kind_left]
      exact joint.raster before
    · exact roi_kind now

/-- The intersection of limits of one kind permits exactly what every member permits. -/
theorem interAll_isJoint [Clipping] {ls : List Limits} {kind : LimitsKind} (nonempty : ls ≠ [])
    (same : ∀ l ∈ ls, l.kind = kind) :
    ∃ r, Limits.interAll ls = .ok (some r) ∧ IsJoint ls r := by
  obtain ⟨r, run, _, joint⟩ :=
    interAll_induction isJoint_single (fun _ _ _ _ => isJoint_snoc) nonempty same
  exact ⟨r, run, joint⟩

/-- Three coverages, of which the last two leave no region of interest. -/
theorem interAll_isJoint_coverages :
    let ls : List Limits := [
      .coverage { mode := .challenge, readFilter := .expr "public", readerParams := some [] },
      .coverage { mode := .mixed, roi := some (Region.rectangle 0 0 1 1) },
      .coverage { mode := .hide, roi := some (Region.rectangle 2 2 3 3) }]
    (ls ≠ [] ∧ ∀ l ∈ ls, l.kind = .coverage) ∧
      ∃ r, Limits.interAll ls = .ok (some r) ∧ IsJoint ls r := by
  intro ls
  have nonempty : ls ≠ [] := List.cons_ne_nil _ _
  have same : ∀ l ∈ ls, l.kind = .coverage := by simp [ls, Limits.kind]
  exact ⟨⟨nonempty, same⟩, interAll_isJoint nonempty same⟩

theorem IsJoint.runsOut [Clipping] {ls : List Limits} {r : Limits} (joint : IsJoint ls r)
    (several : 2 ≤ ls.length) (empty : r.roi?.any Region.isEmpty = true) : RoiRunsOut ls := by
  refine ⟨ls.length, several, Nat.le_refl _, ?_⟩
  rwa [List.take_length, ← joint.roi]

/-- If the intersection of a list has an empty region of interest, it denies reading, unless it is
the only member of the list. -/
theorem interAll_denies_empty_region [Clipping] {ls : List Limits} {kind : LimitsKind}
    (nonempty : ls ≠ []) (same : ∀ l ∈ ls, l.kind = kind) :
    ∃ r, Limits.interAll ls = .ok (some r) ∧ ∀ roi, r.roi? = some roi → roi.isEmpty = true →
      (r.readFilter? = some .never ∧ r.canRead = false) ∨ ls = [r] := by
  obtain ⟨r, run, _, joint⟩ :=
    interAll_induction isJoint_single (fun _ _ _ _ => isJoint_snoc) nonempty same
  refine ⟨r, run, ?_⟩
  intro roi present empty
  by_cases several : 2 ≤ ls.length
  · left
    have out := joint.runsOut several (by rw [present]; exact empty)
    refine ⟨joint.readDenied out, ?_⟩
    rw [Bool.eq_false_iff, Ne, joint.canRead]
    exact fun readable => readable.2 out
  · right
    have size : ls.length = 1 := by
      have positive := List.length_pos_iff.mpr nonempty
      omega
    obtain ⟨l, rfl⟩ := List.length_eq_one_iff.mp size
    rw [interAll_single, Except.ok.injEq, Option.some.injEq] at run
    rw [run]

/-- The region of the first member has no area, and the second one has no region. -/
theorem interAll_denies_empty_region_line :
    let line : WmtsLimits := { mode := .mixed, roi := some (Region.rectangle 1 0 1 5) }
    let free : WmtsLimits := { mode := .challenge, readFilter := .expr "public" }
    let ls : List Limits := [.wmts line, .wmts free]
    (ls ≠ [] ∧ ∀ l ∈ ls, l.kind = .wmts) ∧
      ∃ r, Limits.interAll ls = .ok (some r) ∧ r.roi? = some (Region.rectangle 1 0 1 5) ∧
        (Region.rectangle 1 0 1 5).isEmpty = true ∧
        r.readFilter? = some .never ∧ r.canRead = false := by
  intro line free ls
  have nonempty : ls ≠ [] := List.cons_ne_nil _ _
  have same : ∀ l ∈ ls, l.kind = .wmts := by simp [ls, Limits.kind]
  have flat : (Region.rectangle 1 0 1 5).isEmpty = true := by decide +kernel
  obtain ⟨r, run, denies⟩ := interAll_denies_empty_region nonempty same
  have meet : Limits.interAll ls = .ok (some (.wmts (line.inter free))) := rfl
  obtain rfl := Option.some.inj (Except.ok.inj (run.symm.trans meet))
  have denied := (denies _ rfl flat).resolve_right (by simp [ls])
  exact ⟨⟨nonempty, same⟩, _, run, rfl, flat, denied⟩

/-- Limits that stand alone may be read although their region of interest is empty. -/
theorem lone_empty_region_readable :
    let l : Limits := .coverage { mode := .challenge, roi := some .empty }
    Limits.interAll [l] = .ok (some l) ∧ l.roi?.any Region.isEmpty = true ∧
      l.readFilter? = some .always ∧ l.canRead = true := by
  intro l
  exact ⟨interAll_single l, rfl, rfl, rfl⟩

end MapGate
