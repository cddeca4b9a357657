import Mathlib.Data.List.ReduceOption
import MapGate.Access.Intersection
import MapGate.Proofs.Access.Conjunction

/-!
What a list of access limits permits jointly. `IsJoint` says, field by field, that limits permit
exactly what every member of a list permits. The regions, names and parameters of a whole list are
given in closed form, not by a fold; an absent region or name list does not restrict, while an
absent parameter list leaves no parameters.
-/
namespace MapGate

/-- The common area of the regions that are there. -/
def jointRegion [Clipping] (regions : List (Option Region)) : Option Region :=
  match regions.reduceOption with
  | [] => none
  | region :: rest => some (rest.foldl Region.inter region)

/-- Whether a list of names admits a name; an absent list admits all. -/
def admits (name : String) : Option (List String) → Bool
  | none => true
  | some names => names.contains name

/-- The names of the first list there is that every list admits, in its order. -/
def jointNames (lists : List (Option (List String))) : Option (List String) :=
  lists.reduceOption.head?.map fun names => names.filter fun name => lists.all (admits name)

/-- The parameters of the first list that occur in all others, if every list is there. -/
def jointParams : List (Option ReaderParams) → Option ReaderParams
  | [] => none
  | first :: others =>
    if others.all Option.isSome then
      first.map fun params => params.filter fun entry => others.all fun list =>
        (list.getD []).holds entry
    else none

namespace Limits

def writeFilter? : Limits → Option Predicate
  | vector l => some l.writeFilter
  | _ => none

def readAttributes? : Limits → Option (List String)
  | vector l => l.readAttributes
  | _ => none

def writeAttributes? : Limits → Option (List String)
  | vector l => l.writeAttributes
  | _ => none

def clipRegion? : Limits → Option Region
  | vector l => l.clipRegion
  | _ => none

def intersectRegion? : Limits → Option Region
  | vector l => l.intersectRegion
  | _ => none

def readerParams? : Limits → Option ReaderParams
  | coverage l => l.readerParams
  | _ => none

/-- The flags of the kinds that have them; the other kinds do not restrict by flags. -/
def featureInfo : Limits → Bool
  | wms l => l.allowFeatureInfo
  | _ => true

def readable : Limits → Bool
  | workspace l => l.readable
  | _ => true

def writable : Limits → Bool
  | workspace l => l.writable
  | _ => true

def adminable : Limits → Bool
  | workspace l => l.adminable
  | _ => true

def Reads (truth : String → Bool) (l : Limits) : Prop :=
  ∀ p ∈ l.readFilter?, p.eval truth = true

def Writes (truth : String → Bool) (l : Limits) : Prop :=
  ∀ p ∈ l.writeFilter?, p.eval truth = true

end Limits

/-- The region of interest left by some number of members, two at least, is empty. -/
def RoiRunsOut [Clipping] (ls : List Limits) : Prop :=
  ∃ n, 2 ≤ n ∧ n ≤ ls.length ∧
    (jointRegion ((ls.take n).map Limits.roi?)).any Region.isEmpty = true

/-- Limits that permit exactly what every member of a list permits. -/
structure IsJoint [Clipping] (ls : List Limits) (r : Limits) : Prop where
  kind : ∀ l ∈ ls, l.kind = r.kind
  mode_mem : ∃ l ∈ ls, l.mode = r.mode
  mode_least : ∀ l ∈ ls, r.mode.rank ≤ l.mode.rank
  roi : r.roi? = jointRegion (ls.map Limits.roi?)
  clipRegion : r.clipRegion? = jointRegion (ls.map Limits.clipRegion?)
  intersectRegion : r.intersectRegion? = jointRegion (ls.map Limits.intersectRegion?)
  readDenied : RoiRunsOut ls → r.readFilter? = some .never
  reads : ¬RoiRunsOut ls → ∀ truth, r.Reads truth ↔ ∀ l ∈ ls, l.Reads truth
  writes : ∀ truth, r.Writes truth ↔ ∀ l ∈ ls, l.Writes truth
  readNames : r.readAttributes? = jointNames (ls.map Limits.readAttributes?)
  writeNames : r.writeAttributes? = jointNames (ls.map Limits.writeAttributes?)
  readAdmits : ∀ name,
    admits name r.readAttributes? = true ↔ ∀ l ∈ ls, admits name l.readAttributes? = true
  writeAdmits : ∀ name,
    admits name r.writeAttributes? = true ↔ ∀ l ∈ ls, admits name l.writeAttributes? = true
  readerParams : r.readerParams? = jointParams (ls.map Limits.readerParams?)
  featureInfo : r.featureInfo = true ↔ ∀ l ∈ ls, l.featureInfo = true
  readable : r.readable = true ↔ ∀ l ∈ ls, l.readable = true
  writable : r.writable = true ↔ ∀ l ∈ ls, l.writable = true
  adminable : r.adminable = true ↔ ∀ l ∈ ls, l.adminable = true
  canRead : r.canRead = true ↔ (∀ l ∈ ls, l.canRead = true) ∧ ¬RoiRunsOut ls
  canWrite : r.canWrite = true ↔ (∀ l ∈ ls, l.canWrite = true) ∧ ¬RoiRunsOut ls
  /-- Only the raster kinds have a region of interest that can run out. -/
  raster : RoiRunsOut ls → r.kind = .coverage ∨ r.kind = .wms ∨ r.kind = .wmts

theorem jointRegion_single [Clipping] (r : Option Region) : jointRegion [r] = r := by
  cases r <;> rfl

theorem jointNames_single (list : Option (List String)) : jointNames [list] = list := by
  cases list <;> simp [jointNames, List.reduceOption, admits]

theorem jointParams_single (list : Option ReaderParams) : jointParams [list] = list := by
  simp [jointParams]

theorem jointRegion_snoc [Clipping] (regions : List (Option Region)) (r : Option Region) :
    jointRegion (regions ++ [r]) = interRegions (jointRegion regions) r := by
  unfold jointRegion
  rw [List.reduceOption_append, List.reduceOption_singleton]
  cases regions.reduceOption with
  | nil => cases r <;> rfl
  | cons first rest => cases r <;> simp [interRegions, mergeOptional]

theorem admits_jointNames (name : String) (lists : List (Option (List String))) :
    admits name (jointNames lists) = true ↔ ∀ list ∈ lists, admits name list = true := by
  unfold jointNames
  cases present : lists.reduceOption with
  | nil =>
    have absent : ∀ list ∈ lists, list = none := List.filterMap_eq_nil_iff.mp present
    constructor
    · intro _ list member
      rw [absent list member]
      rfl
    · intro _
      rfl
  | cons first rest =>
    have member : some first ∈ lists := List.reduceOption_mem_iff.mp (by rw [present]; simp)
    simp only [List.head?_cons, Option.map_some, admits, List.contains_eq_mem, List.mem_filter,
      decide_eq_true_eq, List.all_eq_true]
    constructor
    · intro kept
      exact kept.2
    · intro all
      exact ⟨by simpa [admits] using all _ member, all⟩

theorem jointNames_snoc (lists : List (Option (List String))) (list : Option (List String)) :
    jointNames (lists ++ [list]) = interAttributes (jointNames lists) list := by
  unfold jointNames
  rw [List.reduceOption_append, List.reduceOption_singleton]
  cases present : lists.reduceOption with
  | nil =>
    have absent : ∀ list ∈ lists, list = none := List.filterMap_eq_nil_iff.mp present
    cases list with
    | none => rfl
    | some names =>
      have neutral : ∀ name, lists.all (admits name) = true := by
        intro name
        refine List.all_eq_true.mpr ?_
        intro other member
        rw [absent other member]
        rfl
      simp [interAttributes, mergeOptional, neutral, admits]
  | cons first rest =>
    cases list with
    | none => simp [interAttributes, mergeOptional, admits]
    | some names =>
      simp [interAttributes, mergeOptional, commonNames, admits, List.filter_filter, Bool.and_comm]

theorem jointParams_snoc {lists : List (Option ReaderParams)} (nonempty : lists ≠ [])
    (list : Option ReaderParams) :
    jointParams (lists ++ [list]) = interReaderParams (jointParams lists) list := by
  cases lists with
  | nil => contradiction
  | cons first others =>
    simp only [List.cons_append, jointParams, List.all_append, List.all_cons, List.all_nil,
      Bool.and_true]
    cases list with
    | none => simp [interReaderParams]
    | some params =>
      cases first with
      | none => simp [interReaderParams]
      | some kept =>
        by_cases present : others.all Option.isSome = true
        · simp [present, interReaderParams, List.filter_filter, Bool.and_comm]
        · simp [present, interReaderParams]

theorem not_roiRunsOut_single [Clipping] (l : Limits) : ¬RoiRunsOut [l] := by
  rintro ⟨n, two, bound, _⟩
  rw [List.length_singleton] at bound
  omega

theorem roiRunsOut_snoc [Clipping] {ls : List Limits} (nonempty : ls ≠ []) (l : Limits) :
    RoiRunsOut (ls ++ [l]) ↔ RoiRunsOut ls ∨
      (jointRegion ((ls ++ [l]).map Limits.roi?)).any Region.isEmpty = true := by
  have size : 0 < ls.length := List.length_pos_iff.mpr nonempty
  constructor
  · rintro ⟨n, two, bound, empty⟩
    rw [List.length_append, List.length_singleton] at bound
    by_cases last : n = ls.length + 1
    · right
      rwa [List.take_of_length_le (by simp [last])] at empty
    · left
      rw [List.take_append_of_le_length (by omega)] at empty
      exact ⟨n, two, by omega, empty⟩
  · rintro (⟨n, two, bound, empty⟩ | empty)
    · exact ⟨n, two, by simp; omega, by rwa [List.take_append_of_le_length bound]⟩
    · exact ⟨ls.length + 1, by omega, by simp, by rwa [List.take_of_length_le (by simp)]⟩

end MapGate
