import MapGate.Proofs.Access.Meet
import MapGate.Proofs.Json.SameValue
import MapGate.Region.Overlay

/-!
Regrouping of intersections. The limits that a list of limits leaves are the same, down to the
shape of filters and the order of names and parameters, whether the list is taken as a whole or in
two parts. This rests on the clipping of regions, whose intersections must not depend on their
grouping either; limits of the raster kinds look at the region of interest after each step, so an
empty region must also stay empty.
-/
namespace MapGate

/-- Regions among which intersection is associative and leaves nothing of an empty region. Regions
of simple polygons are such a family if clipping is exact. A ring that crosses itself may have no
area and yet enclose points, so that of a region called empty something may be left. -/
structure Region.Regular [Clipping] (family : Region → Prop) : Prop where
  inter : ∀ r s, family r → family s → family (r.inter s)
  assoc : ∀ r s t, family r → family s → family t → (r.inter s).inter t = r.inter (s.inter t)
  empty : ∀ r s, family r → family s → r.isEmpty = true ∨ s.isEmpty = true →
    (r.inter s).isEmpty = true

theorem mergeOptional_assoc {α : Type} {combine : α → α → α} {x y z : Option α}
    (assoc : ∀ a ∈ x, ∀ b ∈ y, ∀ c ∈ z, combine (combine a b) c = combine a (combine b c)) :
    mergeOptional combine (mergeOptional combine x y) z =
      mergeOptional combine x (mergeOptional combine y z) := by
  cases x <;> cases y <;> cases z <;> simp_all [mergeOptional]

namespace Region.Regular

variable [Clipping] {family : Region → Prop} (regular : Regular family) {x y z : Option Region}
  (left : ∀ r ∈ x, family r) (right : ∀ r ∈ y, family r)

include regular left right

theorem interRegions_mem : ∀ r ∈ interRegions x y, family r := by
  cases x with
  | none => exact right
  | some a =>
    cases y with
    | none => exact left
    | some b =>
      intro r common
      obtain rfl := Option.mem_some_iff.mp common
      exact regular.inter a b (left a rfl) (right b rfl)

theorem interRegions_assoc (last : ∀ r ∈ z, family r) :
    interRegions (interRegions x y) z = interRegions x (interRegions y z) := by
  apply mergeOptional_assoc
  intro a first b second c third
  exact regular.assoc a b c (left a first) (right b second) (last c third)

theorem runsOut (out : x.any isEmpty = true ∨ y.any isEmpty = true) :
    (interRegions x y).any isEmpty = true := by
  cases x with
  | none => exact out.resolve_left nofun
  | some a =>
    cases y with
    | none => exact out.resolve_right nofun
    | some b =>
      rw [Option.any_some, Option.any_some] at out
      rw [interRegions, mergeOptional, Option.any_some]
      exact regular.empty a b (left a rfl) (right b rfl) out

end Region.Regular

/-- A list of regions is regular if an associative table of places says what the intersections of
its members are. -/
theorem Region.Regular.of_table [Clipping] {regions : List Region}
    {meet : Fin regions.length → Fin regions.length → Fin regions.length}
    (inter : ∀ i j, (regions.get i).inter (regions.get j) = regions.get (meet i j))
    (assoc : ∀ i j k, meet (meet i j) k = meet i (meet j k))
    (empty : ∀ i j, (regions.get i).isEmpty = true ∨ (regions.get j).isEmpty = true →
      (regions.get (meet i j)).isEmpty = true) : Regular (· ∈ regions) := by
  constructor
  case inter =>
    intro r s first second
    obtain ⟨i, rfl⟩ := List.mem_iff_get.mp first
    obtain ⟨j, rfl⟩ := List.mem_iff_get.mp second
    rw [inter]
    exact List.get_mem regions (meet i j)
  case assoc =>
    intro r s t first second third
    obtain ⟨i, rfl⟩ := List.mem_iff_get.mp first
    obtain ⟨j, rfl⟩ := List.mem_iff_get.mp second
    obtain ⟨k, rfl⟩ := List.mem_iff_get.mp third
    rw [inter, inter, inter, inter, assoc]
  case empty =>
    intro r s first second out
    obtain ⟨i, rfl⟩ := List.mem_iff_get.mp first
    obtain ⟨j, rfl⟩ := List.mem_iff_get.mp second
    rw [inter]
    exact empty i j out

theorem commonNames_assoc (a b c : List String) :
    commonNames (commonNames a b) c = commonNames a (commonNames b c) := by
  unfold commonNames
  rw [List.filter_filter]
  apply List.filter_congr
  intro name _
  rw [Bool.eq_iff_iff]
  simp [and_comm]

theorem ReaderParams.holds_iff {params : ReaderParams} {entry : String × Value} :
    params.holds entry = true ↔
      ∃ other ∈ params, entry.1 = other.1 ∧ entry.2.same other.2 = true := by
  simp [holds]

/-- Equality of parameters is an equivalence, so one that is in both of two lists is in what they
have in common. -/
theorem ReaderParams.holds_filter (b c : ReaderParams) (entry : String × Value) :
    ReaderParams.holds (b.filter c.holds) entry = (c.holds entry && b.holds entry) := by
  rw [Bool.eq_iff_iff, Bool.and_eq_true, holds_iff, holds_iff, holds_iff]
  constructor
  · rintro ⟨other, member, key, same⟩
    obtain ⟨inB, inC⟩ := List.mem_filter.mp member
    obtain ⟨third, listed, key', same'⟩ := holds_iff.mp inC
    have across := Value.same_equivalence.trans same same'
    exact ⟨⟨third, listed, key.trans key', across⟩, other, inB, key, same⟩
  · rintro ⟨⟨third, listed, key', same'⟩, other, member, key, same⟩
    have across := Value.same_equivalence.trans (Value.same_equivalence.symm same) same'
    have common : c.holds other = true := holds_iff.mpr ⟨third, listed, key.symm.trans key', across⟩
    exact ⟨other, List.mem_filter.mpr ⟨member, common⟩, key, same⟩

theorem interReaderParams_assoc (x y z : Option ReaderParams) :
    interReaderParams (interReaderParams x y) z = interReaderParams x (interReaderParams y z) := by
  cases x with
  | none => rfl
  | some a =>
    cases y with
    | none => rfl
    | some b =>
      cases z with
      | none => rfl
      | some c =>
        simp only [interReaderParams, List.filter_filter]
        congr 1
        apply List.filter_congr
        intro entry _
        exact (ReaderParams.holds_filter b c entry).symm

theorem Mode.inter_assoc (a b c : Mode) : (a.inter b).inter c = a.inter (b.inter c) := by
  cases a <;> cases b <;> cases c <;> rfl

/-- What an empty region denies early it denies at the end as well. -/
theorem denyOnEmpty_early {inner outer : Option Region}
    (out : inner.any Region.isEmpty = true → outer.any Region.isEmpty = true) (p : Predicate)
    (join : Predicate → Predicate) :
    denyOnEmpty (join (denyOnEmpty p inner)) outer = denyOnEmpty (join p) outer := by
  cases empty : outer.any Region.isEmpty with
  | true => rw [denyOnEmpty_out empty, denyOnEmpty_out empty]
  | false =>
    have covered : inner.any Region.isEmpty = false := by
      rw [empty] at out
      simpa using out
    rw [denyOnEmpty_open covered]

/-- Filters may be joined in either order of the steps, if a region of interest that runs out in the
first step of a grouping has run out in the end. -/
theorem filters_assoc {first second outer : Option Region}
    (early : first.any Region.isEmpty = true → outer.any Region.isEmpty = true)
    (late : second.any Region.isEmpty = true → outer.any Region.isEmpty = true)
    (x y z : Option Predicate) :
    (Option.map₂ Predicate.and ((Option.map₂ Predicate.and x y).map (denyOnEmpty · first)) z).map
        (denyOnEmpty · outer) =
      (Option.map₂ Predicate.and x ((Option.map₂ Predicate.and y z).map (denyOnEmpty · second))).map
        (denyOnEmpty · outer) := by
  cases x with
  | none => rfl
  | some p =>
    cases y with
    | none => rfl
    | some q =>
      cases z with
      | none => rfl
      | some s =>
        refine congrArg some ?_
        calc
          denyOnEmpty ((denyOnEmpty (p.and q) first).and s) outer
            = denyOnEmpty ((p.and q).and s) outer :=
              denyOnEmpty_early early (p.and q) (·.and s)
          _ = denyOnEmpty (p.and (q.and s)) outer := by rw [Predicate.and_assoc]
          _ = denyOnEmpty (p.and (denyOnEmpty (q.and s) second)) outer :=
              (denyOnEmpty_early late (q.and s) p.and).symm

namespace Limits

/-- All regions in limits belong to a family. -/
structure RegionsIn (family : Region → Prop) (l : Limits) : Prop where
  roi : ∀ r ∈ l.roi?, family r
  clipRegion : ∀ r ∈ l.clipRegion?, family r
  intersectRegion : ∀ r ∈ l.intersectRegion?, family r

/-- Limits of one kind that agree in whatever they consist of. -/
structure Agree (a b : Limits) : Prop where
  kind : a.kind = b.kind
  mode : a.mode = b.mode
  roi : a.roi? = b.roi?
  clipRegion : a.clipRegion? = b.clipRegion?
  intersectRegion : a.intersectRegion? = b.intersectRegion?
  readFilter : a.readFilter? = b.readFilter?
  writeFilter : a.writeFilter? = b.writeFilter?
  readNames : a.readAttributes? = b.readAttributes?
  writeNames : a.writeAttributes? = b.writeAttributes?
  readerParams : a.readerParams? = b.readerParams?
  featureInfo : a.featureInfo = b.featureInfo
  readable : a.readable = b.readable
  writable : a.writable = b.writable
  adminable : a.adminable = b.adminable

theorem Agree.eq {a b : Limits} (agree : Agree a b) : a = b := by
  obtain ⟨kind, mode, roi, clipRegion, intersectRegion, readFilter, writeFilter, readNames,
    writeNames, readerParams, featureInfo, readable, writable, adminable⟩ := agree
  cases a <;> cases b <;> simp only [Limits.kind, reduceCtorEq] at kind
  all_goals
    rename_i l m
    cases l
    cases m
    simp_all [Limits.mode, roi?, clipRegion?, intersectRegion?, readFilter?, writeFilter?,
      readAttributes?, writeAttributes?, readerParams?, Limits.featureInfo, Limits.readable,
      Limits.writable, Limits.adminable]

end Limits

namespace IsMeet

variable [Clipping] {family : Region → Prop} {a b c ab bc left right : Limits}

theorem regionsIn (meet : IsMeet a b c) (regular : Region.Regular family)
    (first : a.RegionsIn family) (second : b.RegionsIn family) : c.RegionsIn family := by
  constructor
  case roi =>
    rw [meet.roi]
    exact regular.interRegions_mem first.roi second.roi
  case clipRegion =>
    rw [meet.clipRegion]
    exact regular.interRegions_mem first.clipRegion second.clipRegion
  case intersectRegion =>
    rw [meet.intersectRegion]
    exact regular.interRegions_mem first.intersectRegion second.intersectRegion

theorem assoc (before : IsMeet a b ab) (leftwards : IsMeet ab c left) (after : IsMeet b c bc)
    (rightwards : IsMeet a bc right) (regular : Region.Regular family)
    (first : a.RegionsIn family) (second : b.RegionsIn family) (third : c.RegionsIn family) :
    left = right := by
  have roi : left.roi? = right.roi? := by
    rw [leftwards.roi, before.roi, rightwards.roi, after.roi]
    exact regular.interRegions_assoc first.roi second.roi third.roi
  have names (x y z : Option (List String)) :
      interAttributes (interAttributes x y) z = interAttributes x (interAttributes y z) :=
    mergeOptional_assoc fun a _ b _ c _ => commonNames_assoc a b c
  have filters (x y z : Option Predicate) :
      Option.map₂ Predicate.and (Option.map₂ Predicate.and x y) z =
        Option.map₂ Predicate.and x (Option.map₂ Predicate.and y z) :=
    Option.map₂_assoc Predicate.and_assoc
  apply Limits.Agree.eq
  constructor
  case kind =>
    rw [← leftwards.kind_left, ← before.kind_left, rightwards.kind_left]
  case mode => rw [leftwards.mode, before.mode, rightwards.mode, after.mode, Mode.inter_assoc]
  case roi => exact roi
  case clipRegion =>
    rw [leftwards.clipRegion, before.clipRegion, rightwards.clipRegion, after.clipRegion]
    exact regular.interRegions_assoc first.clipRegion second.clipRegion third.clipRegion
  case intersectRegion =>
    rw [leftwards.intersectRegion, before.intersectRegion, rightwards.intersectRegion,
      after.intersectRegion]
    exact regular.interRegions_assoc first.intersectRegion second.intersectRegion
      third.intersectRegion
  case readFilter =>
    rw [leftwards.readFilter, before.readFilter, rightwards.readFilter, after.readFilter, roi]
    apply filters_assoc
    · intro out
      rw [← roi, leftwards.roi]
      exact regular.runsOut (before.regionsIn regular first second).roi third.roi (.inl out)
    · intro out
      rw [rightwards.roi]
      exact regular.runsOut first.roi (after.regionsIn regular second third).roi (.inr out)
  case writeFilter =>
    rw [leftwards.writeFilter, before.writeFilter, rightwards.writeFilter, after.writeFilter,
      filters]
  case readNames =>
    rw [leftwards.readNames, before.readNames, rightwards.readNames, after.readNames, names]
  case writeNames =>
    rw [leftwards.writeNames, before.writeNames, rightwards.writeNames, after.writeNames, names]
  case readerParams =>
    rw [leftwards.readerParams, before.readerParams, rightwards.readerParams, after.readerParams,
      interReaderParams_assoc]
  case featureInfo =>
    rw [leftwards.featureInfo, before.featureInfo, rightwards.featureInfo, after.featureInfo,
      Bool.and_assoc]
  case readable =>
    rw [leftwards.readable, before.readable, rightwards.readable, after.readable, Bool.and_assoc]
  case writable =>
    rw [leftwards.writable, before.writable, rightwards.writable, after.writable, Bool.and_assoc]
  case adminable =>
    rw [leftwards.adminable, before.adminable, rightwards.adminable, after.adminable,
      Bool.and_assoc]

end IsMeet

/-- Limits of one kind whose regions belong to a family. -/
structure Limits.Fits (kind : LimitsKind) (family : Region → Prop) (l : Limits) : Prop where
  sort : l.kind = kind
  regions : l.RegionsIn family

theorem interOptional_none [Clipping] (x : Option Limits) :
    Limits.interOptional x none = .ok x := by
  cases x <;> rfl

section Fold

variable [Clipping] {family : Region → Prop} (regular : Region.Regular family) {kind : LimitsKind}

include regular

theorem interOptional_fits {x y : Option Limits} (left : ∀ l ∈ x, l.Fits kind family)
    (right : ∀ l ∈ y, l.Fits kind family) :
    ∃ z, Limits.interOptional x y = .ok z ∧ ∀ l ∈ z, l.Fits kind family := by
  cases x with
  | none => exact ⟨y, rfl, right⟩
  | some a =>
    cases y with
    | none => exact ⟨some a, rfl, left⟩
    | some b =>
      have first := left a rfl
      have second := right b rfl
      obtain ⟨c, step, meet⟩ := inter_isMeet (first.sort.trans second.sort.symm)
      have fits : c.Fits kind family :=
        ⟨meet.kind_left ▸ first.sort, meet.regionsIn regular first.regions second.regions⟩
      exact ⟨some c, interOptional_some step, by simpa using fits⟩

theorem interOptional_assoc {x y z xy yz : Option Limits} (first : ∀ l ∈ x, l.Fits kind family)
    (second : ∀ l ∈ y, l.Fits kind family) (third : ∀ l ∈ z, l.Fits kind family)
    (before : Limits.interOptional x y = .ok xy) (after : Limits.interOptional y z = .ok yz) :
    Limits.interOptional xy z = Limits.interOptional x yz := by
  cases x with
  | none =>
    obtain rfl := Except.ok.inj before
    exact after
  | some a =>
    cases y with
    | none =>
      obtain rfl := Except.ok.inj before
      obtain rfl := Except.ok.inj after
      rfl
    | some b =>
      cases z with
      | none =>
        rw [interOptional_none] at after ⊢
        rw [← Except.ok.inj after, before]
      | some c =>
        have one := first a rfl
        have two := second b rfl
        have three := third c rfl
        obtain ⟨ab, stepBefore, meetBefore⟩ := inter_isMeet (one.sort.trans two.sort.symm)
        obtain ⟨bc, stepAfter, meetAfter⟩ := inter_isMeet (two.sort.trans three.sort.symm)
        rw [interOptional_some stepBefore] at before
        rw [interOptional_some stepAfter] at after
        obtain rfl := Except.ok.inj before
        obtain rfl := Except.ok.inj after
        have left : ab.kind = c.kind :=
          meetBefore.kind_right.symm.trans (two.sort.trans three.sort.symm)
        have right : a.kind = bc.kind := (one.sort.trans two.sort.symm).trans meetAfter.kind_left
        obtain ⟨_, stepLeft, meetLeft⟩ := inter_isMeet left
        obtain ⟨_, stepRight, meetRight⟩ := inter_isMeet right
        rw [interOptional_some stepLeft, interOptional_some stepRight,
          meetBefore.assoc meetLeft meetAfter meetRight regular one.regions two.regions
            three.regions]

theorem interAll_fits {ls : List Limits} (each : ∀ l ∈ ls, l.Fits kind family) :
    ∃ x, Limits.interAll ls = .ok x ∧ ∀ l ∈ x, l.Fits kind family := by
  induction ls using List.reverseRecOn with
  | nil => exact ⟨none, rfl, nofun⟩
  | append_singleton ls last ih =>
    rw [List.forall_mem_append, List.forall_mem_singleton] at each
    obtain ⟨x, run, fits⟩ := ih each.1
    have next : ∀ l ∈ some last, l.Fits kind family := by simpa using each.2
    obtain ⟨z, step, stays⟩ := interOptional_fits regular fits next
    exact ⟨z, by rw [interAll_concat, run]; exact step, stays⟩

theorem interAll_append {left right : List Limits} {x y : Option Limits}
    (first : ∀ l ∈ x, l.Fits kind family) (second : ∀ l ∈ right, l.Fits kind family)
    (before : Limits.interAll left = .ok x) (after : Limits.interAll right = .ok y) :
    Limits.interAll (left ++ right) = Limits.interOptional x y := by
  induction right using List.reverseRecOn generalizing y with
  | nil =>
    obtain rfl := Except.ok.inj after
    rw [List.append_nil, before, interOptional_none]
  | append_singleton right last ih =>
    rw [List.forall_mem_append, List.forall_mem_singleton] at second
    obtain ⟨w, run, fits⟩ := interAll_fits regular second.1
    obtain ⟨xw, joined, _⟩ := interOptional_fits regular first fits
    have final : ∀ l ∈ some last, l.Fits kind family := by simpa using second.2
    rw [interAll_concat, run] at after
    rw [← List.append_assoc, interAll_concat, ih second.1 run, joined]
    exact interOptional_assoc regular first fits final joined after

end Fold

/-- However polygons are clipped, limits of one kind whose regions may be regrouped may be
intersected in two groups: the intersection of a list is that of the intersections of the part
before and the part from any point on, and none of them fails. -/
theorem interAll_regroups [Clipping] {family : Region → Prop} {kind : LimitsKind}
    {left right : List Limits} (regular : Region.Regular family)
    (same : ∀ l ∈ left ++ right, l.kind = kind) (regions : ∀ l ∈ left ++ right, l.RegionsIn family) :
    ∃ x y whole, Limits.interAll left = .ok x ∧ Limits.interAll right = .ok y ∧
      Limits.interOptional x y = .ok whole ∧ Limits.interAll (left ++ right) = .ok whole := by
  have fits : ∀ l ∈ left ++ right, l.Fits kind family :=
    fun l member => ⟨same l member, regions l member⟩
  rw [List.forall_mem_append] at fits
  obtain ⟨x, before, first⟩ := interAll_fits regular fits.1
  obtain ⟨y, after, second⟩ := interAll_fits regular fits.2
  obtain ⟨whole, joined, _⟩ := interOptional_fits regular first second
  have append := interAll_append regular first fits.2 before after
  exact ⟨x, y, whole, before, after, joined, append.trans joined⟩

/-- Four coverages, three of them with a region of interest, of which the first overlaps the
others. In one go the last step leaves nothing of it; in two groups the second one already has
nothing left when they are joined. -/
theorem interAll_regroups_coverages :
    let square := (Region.rectangle 0 0 2 2).canonical
    let shifted := (Region.rectangle 1 1 3 3).canonical
    let common := (Region.rectangle 1 1 2 2).canonical
    let strip := (Region.rectangle 0 0 1 2).canonical
    let left : List Limits := [
      .coverage { mode := .challenge, readFilter := .expr "a", roi := some square },
      .coverage { mode := .mixed, readFilter := .conj [.expr "b"], readerParams := some [] }]
    let right : List Limits := [
      .coverage { mode := .challenge, roi := some shifted },
      .coverage { mode := .hide, readFilter := .expr "c", roi := some strip }]
    let regions : List Region := [square, shifted, common, strip, .empty]
    (square.inter shifted = common ∧ square.inter strip = strip ∧ shifted.inter strip = .empty) ∧
      (Region.Regular (· ∈ regions) ∧ (∀ l ∈ left ++ right, l.kind = .coverage) ∧
        ∀ l ∈ left ++ right, l.RegionsIn (· ∈ regions)) ∧
      ∃ x y whole, Limits.interAll left = .ok x ∧ Limits.interAll right = .ok y ∧
        Limits.interOptional x y = .ok whole ∧ Limits.interAll (left ++ right) = .ok whole := by
  intro square shifted common strip left right regions
  -- the place of each two regions' intersection in the list, whose last member is empty
  let rows : List (List (Fin 5)) :=
    [[0, 2, 2, 3, 4], [2, 1, 2, 4, 4], [2, 2, 2, 4, 4], [3, 4, 4, 3, 4], [4, 4, 4, 4, 4]]
  let meet (i j : Fin 5) : Fin 5 := (rows.getD i []).getD j 4
  have table : ∀ i j, (regions.get i).inter (regions.get j) = regions.get (meet i j) := by
    decide +kernel
  have assoc : ∀ i j k, meet (meet i j) k = meet i (meet j k) := by decide
  have empty : ∀ i j, (regions.get i).isEmpty = true ∨ (regions.get j).isEmpty = true →
      (regions.get (meet i j)).isEmpty = true := by
    decide +kernel
  have regular := Region.Regular.of_table table assoc empty
  have same : ∀ l ∈ left ++ right, l.kind = .coverage := by simp [left, right, Limits.kind]
  have listed : ∀ l ∈ left ++ right, (∀ r ∈ l.roi?, r ∈ regions) ∧
      (∀ r ∈ l.clipRegion?, r ∈ regions) ∧ ∀ r ∈ l.intersectRegion?, r ∈ regions := by
    simp [left, right, regions, Limits.roi?, Limits.clipRegion?, Limits.intersectRegion?]
  have inside : ∀ l ∈ left ++ right, l.RegionsIn (· ∈ regions) := by
    intro l member
    obtain ⟨roi, clipRegion, intersectRegion⟩ := listed l member
    exact ⟨roi, clipRegion, intersectRegion⟩
  exact ⟨⟨table 0 1, table 0 3, table 1 3⟩, ⟨regular, same, inside⟩,
    interAll_regroups regular same inside⟩

end MapGate
