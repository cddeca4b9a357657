import MapGate.Access.Mode
import MapGate.Access.Predicate
import MapGate.Json.Value
import MapGate.Region.Basic

/-!
Access limits, one shape for each kind of catalog entity. All carry a mode. An absent attribute
list, region or parameter list means no restriction.
-/
namespace MapGate

/-- Reader parameters, in order; a key may occur more than once. -/
abbrev ReaderParams := List (String × Value)

structure DataLimits where
  mode : Mode
  readFilter : Predicate

structure VectorLimits where
  mode : Mode
  readFilter : Predicate := .always
  writeFilter : Predicate := .always
  readAttributes : Option (List String) := none
  writeAttributes : Option (List String) := none
  clipRegion : Option Region := none
  intersectRegion : Option Region := none

structure CoverageLimits where
  mode : Mode
  readFilter : Predicate := .always
  roi : Option Region := none
  readerParams : Option ReaderParams := none

structure WmsLimits where
  mode : Mode
  readFilter : Predicate := .always
  roi : Option Region := none
  allowFeatureInfo : Bool := true

structure WmtsLimits where
  mode : Mode
  readFilter : Predicate := .always
  roi : Option Region := none

structure WorkspaceLimits where
  mode : Mode
  readable : Bool
  writable : Bool
  adminable : Bool
deriving DecidableEq, Repr

structure StyleLimits where
  mode : Mode
deriving DecidableEq, Repr

structure LayerGroupLimits where
  mode : Mode
deriving DecidableEq, Repr

inductive LimitsKind where
  | data
  | vector
  | coverage
  | wms
  | wmts
  | workspace
  | style
  | layerGroup
deriving DecidableEq, Repr

def LimitsKind.text : LimitsKind → String
  | data => "data"
  | vector => "vector"
  | coverage => "coverage"
  | wms => "wms"
  | wmts => "wmts"
  | workspace => "workspace"
  | style => "style"
  | layerGroup => "layer_group"

inductive Limits where
  | data (limits : DataLimits)
  | vector (limits : VectorLimits)
  | coverage (limits : CoverageLimits)
  | wms (limits : WmsLimits)
  | wmts (limits : WmtsLimits)
  | workspace (limits : WorkspaceLimits)
  | style (limits : StyleLimits)
  | layerGroup (limits : LayerGroupLimits)

namespace Limits

def kind : Limits → LimitsKind
  | data _ => .data
  | vector _ => .vector
  | coverage _ => .coverage
  | wms _ => .wms
  | wmts _ => .wmts
  | workspace _ => .workspace
  | style _ => .style
  | layerGroup _ => .layerGroup

def mode : Limits → Mode
  | data l => l.mode
  | vector l => l.mode
  | coverage l => l.mode
  | wms l => l.mode
  | wmts l => l.mode
  | workspace l => l.mode
  | style l => l.mode
  | layerGroup l => l.mode

def readFilter? : Limits → Option Predicate
  | data l => some l.readFilter
  | vector l => some l.readFilter
  | coverage l => some l.readFilter
  | wms l => some l.readFilter
  | wmts l => some l.readFilter
  | workspace _ => none
  | style _ => none
  | layerGroup _ => none

/-- The region of interest of the raster kinds, where there is one. -/
def roi? : Limits → Option Region
  | coverage l => l.roi
  | wms l => l.roi
  | wmts l => l.roi
  | _ => none

/-- Whether anything may still be read. -/
def canRead : Limits → Bool
  | workspace l => l.readable
  | l =>
    match l.readFilter? with
    | some p => !p.isNever
    | none => true

/-- Whether anything may still be written. -/
def canWrite : Limits → Bool
  | vector l => !l.writeFilter.isNever
  | workspace l => l.writable
  | l => l.canRead

end Limits
end MapGate
