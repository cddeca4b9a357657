import MapGate.Access.Limits
import MapGate.Catalog.Caller
import MapGate.Catalog.Filter

/-!
Access managers answer what a caller may do with an entity; no limits means no restriction. A
filtered manager puts the vetoes and predicates of catalog filters before those of its delegate: a
hidden entity gets the most restrictive limits of its shape.
-/
namespace MapGate.Catalog

structure AccessManager where
  workspaceLimits : Caller → Workspace → Option WorkspaceLimits
  layerLimits : Caller → Layer → Option Limits
  resourceLimits : Caller → Resource → Option Limits
  styleLimits : Caller → Style → Option StyleLimits
  layerGroupLimits : Caller → LayerGroup → Option LayerGroupLimits
  securityFilter : Caller → EntityKind → Predicate

/-- The most restrictive limits for a resource of a kind; kinds without limits of their own get
the general ones. -/
def hideLimits : ResourceKind → Limits
  | .featureType => .vector { mode := .hide, readFilter := .never, writeFilter := .never }
  | .coverage => .coverage { mode := .hide, readFilter := .never }
  | .wmsLayer => .wms { mode := .hide, readFilter := .never, allowFeatureInfo := false }
  | .wmtsLayer => .wmts { mode := .hide, readFilter := .never }
  | .other _ => .data ⟨.hide, .never⟩

namespace AccessManager

def allowAll : AccessManager where
  workspaceLimits _ _ := none
  layerLimits _ _ := none
  resourceLimits _ _ := none
  styleLimits _ _ := none
  layerGroupLimits _ _ := none
  securityFilter _ _ := .always

/-- A manager behind catalog filters. A layer is hidden also through its resource. -/
def filtered (filters : List Filter) (delegate : AccessManager) : AccessManager where
  workspaceLimits caller w :=
    if hiddenBy filters (.workspace w) then some ⟨.hide, false, false, false⟩
    else delegate.workspaceLimits caller w
  layerLimits caller l :=
    if hiddenBy filters (.layer l) || hiddenBy filters (.resource l.resource) then
      some (hideLimits l.resource.kind)
    else delegate.layerLimits caller l
  resourceLimits caller r :=
    if hiddenBy filters (.resource r) then some (hideLimits r.kind)
    else delegate.resourceLimits caller r
  styleLimits caller s :=
    if hiddenBy filters (.style s) then some ⟨.hide⟩ else delegate.styleLimits caller s
  layerGroupLimits caller g :=
    if hiddenBy filters (.layerGroup g) then some ⟨.hide⟩ else delegate.layerGroupLimits caller g
  securityFilter caller kind := restrict filters kind (delegate.securityFilter caller kind)

def limits (m : AccessManager) (caller : Caller) : Entity → Option Limits
  | .workspace w => (m.workspaceLimits caller w).map .workspace
  | .layer l => m.layerLimits caller l
  | .resource r => m.resourceLimits caller r
  | .style s => (m.styleLimits caller s).map .style
  | .layerGroup g => (m.layerGroupLimits caller g).map .layerGroup

end AccessManager
end MapGate.Catalog
