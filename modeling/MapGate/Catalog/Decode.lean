import MapGate.Catalog.Caller
import MapGate.Catalog.Entity
import MapGate.Document.Record

/-!
Catalog descriptors and callers as documents.
-/
namespace MapGate

namespace Catalog

namespace ResourceKind

/-- The kind with this name, other than the free-text one. -/
def named? : String → Option ResourceKind
  | "feature_type" => some featureType
  | "coverage" => some coverage
  | "wms_layer" => some wmsLayer
  | "wmts_layer" => some wmtsLayer
  | _ => none

def ofJson? (j : Json) : Option ResourceKind :=
  match j with
  | .object [(some "other", .string (some name))] => some (other name)
  | _ => j.variantName?.bind named?

def toJson : ResourceKind → Json
  | other name => .record [("other", .ofString name)]
  | kind => .ofString kind.text

end ResourceKind

namespace EntityKind

def ofJson? (j : Json) : Option EntityKind := j.variantName?.bind ofText?

def toJson (k : EntityKind) : Json := .ofString k.text

end EntityKind

namespace Workspace

def ofJson? (j : Json) : Option Workspace := do
  let r ← Record.ofDocument? ["name"] j
  return ⟨← r.required? "name" Document.text?⟩

def toJson (w : Workspace) : Json := .record [("name", .ofString w.name)]

end Workspace

namespace Resource

def ofJson? (j : Json) : Option Resource := do
  let r ← Record.ofDocument? ["name", "workspace", "kind"] j
  let name ← r.required? "name" Document.text?
  let workspace ← r.required? "workspace" Document.text?
  let kind ← r.required? "kind" ResourceKind.ofJson?
  return ⟨name, workspace, kind⟩

def toJson (r : Resource) : Json :=
  .record [("name", .ofString r.name), ("workspace", .ofString r.workspace),
    ("kind", r.kind.toJson)]

end Resource

namespace Layer

def ofJson? (j : Json) : Option Layer := do
  let r ← Record.ofDocument? ["name", "resource"] j
  let name ← r.required? "name" Document.text?
  let resource ← r.required? "resource" Resource.ofJson?
  return ⟨name, resource⟩

def toJson (l : Layer) : Json :=
  .record [("name", .ofString l.name), ("resource", l.resource.toJson)]

end Layer

namespace Style

def ofJson? (j : Json) : Option Style := do
  let r ← Record.ofDocument? ["name", "workspace"] j
  let name ← r.required? "name" Document.text?
  let workspace ← r.optional? "workspace" Document.text?
  return ⟨name, workspace⟩

def toJson (s : Style) : Json :=
  .record [("name", .ofString s.name), ("workspace", .optional .ofString s.workspace)]

end Style

namespace LayerGroup

def ofJson? (j : Json) : Option LayerGroup := do
  let r ← Record.ofDocument? ["name", "workspace", "layers"] j
  let name ← r.required? "name" Document.text?
  let workspace ← r.optional? "workspace" Document.text?
  let layers ← r.required? "layers" Document.texts?
  return ⟨name, workspace, layers⟩

def toJson (g : LayerGroup) : Json :=
  .record [("name", .ofString g.name), ("workspace", .optional .ofString g.workspace),
    ("layers", .strings g.layers)]

end LayerGroup

def Entity.toJson : Entity → Json
  | .workspace w => w.toJson
  | .layer l => l.toJson
  | .resource r => r.toJson
  | .style s => s.toJson
  | .layerGroup g => g.toJson

end Catalog

namespace Caller

def ofJson? (j : Json) : Option Caller := do
  let r ← Record.ofDocument? ["username", "roles"] j
  let username ← r.optional? "username" Document.text?
  let roles ← r.required? "roles" Document.texts?
  return ⟨username, roles⟩

def toJson (c : Caller) : Json :=
  .record [("username", .optional .ofString c.username), ("roles", .strings c.roles)]

end Caller
end MapGate
