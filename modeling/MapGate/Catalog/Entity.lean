/-!
Descriptors of catalog entities. They carry the identity that access decisions need and nothing
else.
-/
namespace MapGate.Catalog

inductive ResourceKind where
  | featureType
  | coverage
  | wmsLayer
  | wmtsLayer
  /-- A kind without limits of its own, known by its name. -/
  | other (name : String)
deriving DecidableEq, Repr

def ResourceKind.text : ResourceKind → String
  | featureType => "feature_type"
  | coverage => "coverage"
  | wmsLayer => "wms_layer"
  | wmtsLayer => "wmts_layer"
  | other name => name

structure Workspace where
  name : String
deriving DecidableEq, Repr

structure Resource where
  name : String
  workspace : String
  kind : ResourceKind
deriving DecidableEq, Repr

def Resource.qualifiedName (r : Resource) : String := r.workspace ++ ":" ++ r.name

structure Layer where
  name : String
  resource : Resource
deriving DecidableEq, Repr

def Layer.ofResource (r : Resource) : Layer := ⟨r.name, r⟩

structure Style where
  name : String
  workspace : Option String
deriving DecidableEq, Repr

structure LayerGroup where
  name : String
  workspace : Option String
  layers : List String
deriving DecidableEq, Repr

inductive EntityKind where
  | workspace
  | layer
  | resource
  | style
  | layerGroup
deriving DecidableEq, Repr

namespace EntityKind

def text : EntityKind → String
  | workspace => "workspace"
  | layer => "layer"
  | resource => "resource"
  | style => "style"
  | layerGroup => "layer_group"

def ofText? : String → Option EntityKind
  | "workspace" => some workspace
  | "layer" => some layer
  | "resource" => some resource
  | "style" => some style
  | "layer_group" => some layerGroup
  | _ => none

end EntityKind

inductive Entity where
  | workspace (info : Workspace)
  | layer (info : Layer)
  | resource (info : Resource)
  | style (info : Style)
  | layerGroup (info : LayerGroup)
deriving DecidableEq, Repr

namespace Entity

def kind : Entity → EntityKind
  | workspace _ => .workspace
  | layer _ => .layer
  | resource _ => .resource
  | style _ => .style
  | layerGroup _ => .layerGroup

def name : Entity → String
  | workspace w => w.name
  | layer l => l.name
  | resource r => r.name
  | style s => s.name
  | layerGroup g => g.name

def resource? : Entity → Option Resource
  | layer l => some l.resource
  | resource r => some r
  | _ => none

end Entity
end MapGate.Catalog
