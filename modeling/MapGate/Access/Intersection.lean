import MapGate.Access.Limits

/-!
Intersection of access limits: the limits under which a request stands to which several rules
apply. It permits what every operand permits. Only limits of one kind have an intersection. The
limits of the raster kinds deny reading as soon as an intersection step leaves no region of
interest. How regions are clipped is a parameter.
-/
namespace MapGate

variable [Clipping]

inductive IntersectionError where
  | mismatched (left right : LimitsKind)
deriving DecidableEq, Repr

def IntersectionError.message : IntersectionError → String
  | mismatched left right =>
    "cannot intersect " ++ left.text ++ " limits with " ++ right.text ++ " limits"

/-- Combines two values of which an absent one leaves the other as it is. -/
def mergeOptional {α : Type} (combine : α → α → α) : Option α → Option α → Option α
  | none, b => b
  | a, none => a
  | some a, some b => some (combine a b)

/-- The names in both lists, in the order of the first. -/
def commonNames (a b : List String) : List String := a.filter (b.contains ·)

def interAttributes : Option (List String) → Option (List String) → Option (List String) :=
  mergeOptional commonNames

def interRegions : Option Region → Option Region → Option Region := mergeOptional Region.inter

/-- Whether a parameter list holds an entry with this key and an equal value. -/
def ReaderParams.holds (params : ReaderParams) (entry : String × Value) : Bool :=
  params.any fun other => entry.1 == other.1 && entry.2.same other.2

/-- The entries of the first list that the second holds too; without one of the lists there are no
parameters. -/
def interReaderParams : Option ReaderParams → Option ReaderParams → Option ReaderParams
  | some a, some b => some (a.filter b.holds)
  | _, _ => none

/-- A filter that denies everything when the region of interest is empty. -/
def denyOnEmpty (filter : Predicate) : Option Region → Predicate
  | some roi => if roi.isEmpty then .never else filter
  | none => filter

namespace DataLimits

def inter (a b : DataLimits) : DataLimits where
  mode := a.mode.inter b.mode
  readFilter := a.readFilter.and b.readFilter

end DataLimits

namespace VectorLimits

def inter (a b : VectorLimits) : VectorLimits where
  mode := a.mode.inter b.mode
  readFilter := a.readFilter.and b.readFilter
  writeFilter := a.writeFilter.and b.writeFilter
  readAttributes := interAttributes a.readAttributes b.readAttributes
  writeAttributes := interAttributes a.writeAttributes b.writeAttributes
  clipRegion := interRegions a.clipRegion b.clipRegion
  intersectRegion := interRegions a.intersectRegion b.intersectRegion

end VectorLimits

namespace CoverageLimits

def inter (a b : CoverageLimits) : CoverageLimits where
  mode := a.mode.inter b.mode
  readFilter := denyOnEmpty (a.readFilter.and b.readFilter) (interRegions a.roi b.roi)
  roi := interRegions a.roi b.roi
  readerParams := interReaderParams a.readerParams b.readerParams

end CoverageLimits

namespace WmsLimits

def inter (a b : WmsLimits) : WmsLimits where
  mode := a.mode.inter b.mode
  readFilter := denyOnEmpty (a.readFilter.and b.readFilter) (interRegions a.roi b.roi)
  roi := interRegions a.roi b.roi
  allowFeatureInfo := a.allowFeatureInfo && b.allowFeatureInfo

end WmsLimits

namespace WmtsLimits

def inter (a b : WmtsLimits) : WmtsLimits where
  mode := a.mode.inter b.mode
  readFilter := denyOnEmpty (a.readFilter.and b.readFilter) (interRegions a.roi b.roi)
  roi := interRegions a.roi b.roi

end WmtsLimits

namespace WorkspaceLimits

def inter (a b : WorkspaceLimits) : WorkspaceLimits where
  mode := a.mode.inter b.mode
  readable := a.readable && b.readable
  writable := a.writable && b.writable
  adminable := a.adminable && b.adminable

end WorkspaceLimits

namespace Limits

def inter : Limits → Limits → Except IntersectionError Limits
  | data a, data b => .ok (data (a.inter b))
  | vector a, vector b => .ok (vector (a.inter b))
  | coverage a, coverage b => .ok (coverage (a.inter b))
  | wms a, wms b => .ok (wms (a.inter b))
  | wmts a, wmts b => .ok (wmts (a.inter b))
  | workspace a, workspace b => .ok (workspace (a.inter b))
  | style a, style b => .ok (style ⟨a.mode.inter b.mode⟩)
  | layerGroup a, layerGroup b => .ok (layerGroup ⟨a.mode.inter b.mode⟩)
  | a, b => .error (.mismatched a.kind b.kind)

/-- Absent limits do not restrict. -/
def interOptional : Option Limits → Option Limits → Except IntersectionError (Option Limits)
  | none, b => .ok b
  | a, none => .ok a
  | some a, some b => (a.inter b).map some

/-- The intersection of all members from the left; none for the empty list. -/
def interAll (limits : List Limits) : Except IntersectionError (Option Limits) :=
  limits.foldlM (fun acc l => interOptional acc (some l)) none

end Limits
end MapGate
