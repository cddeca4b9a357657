import MapGate.Catalog.AccessManager
import MapGate.Catalog.Registry

/-!
A filtered manager whose filters are those of a registry. Every decision consults the registry, the
one on a layer up to twice: its resource is asked about only when the layer itself is not hidden.
What the loader would answer at each consultation of a decision is an argument.
-/
namespace MapGate.Catalog.Registry

/-- Whether one of the entities is hidden, asked about in order up to the first hidden one. -/
def isAnyHidden (r : Registry) (answers : Nat → List Filter) : List Entity → Bool × Registry
  | [] => (false, r)
  | e :: rest =>
    match r.isHidden (answers 0) e with
    | (true, r) => (true, r)
    | (false, r) => r.isAnyHidden (fun n => answers (n + 1)) rest

/-- Fixed limits where one of the entities is hidden, and else the delegate's. -/
def veto {α : Type} (r : Registry) (answers : Nat → List Filter) (entities : List Entity)
    (hidden : α) (shown : Option α) : Option α × Registry :=
  let (vetoed, r) := r.isAnyHidden answers entities
  (if vetoed then some hidden else shown, r)

def workspaceLimits (r : Registry) (answers : Nat → List Filter) (delegate : AccessManager)
    (caller : Caller) (w : Workspace) : Option WorkspaceLimits × Registry :=
  r.veto answers [.workspace w] ⟨.hide, false, false, false⟩ (delegate.workspaceLimits caller w)

def layerLimits (r : Registry) (answers : Nat → List Filter) (delegate : AccessManager)
    (caller : Caller) (l : Layer) : Option Limits × Registry :=
  r.veto answers [.layer l, .resource l.resource] (hideLimits l.resource.kind)
    (delegate.layerLimits caller l)

def resourceLimits (r : Registry) (answers : Nat → List Filter) (delegate : AccessManager)
    (caller : Caller) (resource : Resource) : Option Limits × Registry :=
  r.veto answers [.resource resource] (hideLimits resource.kind)
    (delegate.resourceLimits caller resource)

def styleLimits (r : Registry) (answers : Nat → List Filter) (delegate : AccessManager)
    (caller : Caller) (s : Style) : Option StyleLimits × Registry :=
  r.veto answers [.style s] ⟨.hide⟩ (delegate.styleLimits caller s)

def layerGroupLimits (r : Registry) (answers : Nat → List Filter) (delegate : AccessManager)
    (caller : Caller) (g : LayerGroup) : Option LayerGroupLimits × Registry :=
  r.veto answers [.layerGroup g] ⟨.hide⟩ (delegate.layerGroupLimits caller g)

def limits (r : Registry) (answers : Nat → List Filter) (delegate : AccessManager)
    (caller : Caller) : Entity → Option Limits × Registry
  | .workspace w => (r.workspaceLimits answers delegate caller w).map (·.map .workspace) id
  | .layer l => r.layerLimits answers delegate caller l
  | .resource resource => r.resourceLimits answers delegate caller resource
  | .style s => (r.styleLimits answers delegate caller s).map (·.map .style) id
  | .layerGroup g => (r.layerGroupLimits answers delegate caller g).map (·.map .layerGroup) id

def securityFilter (r : Registry) (answers : Nat → List Filter) (delegate : AccessManager)
    (caller : Caller) (kind : EntityKind) : Predicate × Registry :=
  r.combinedFilter (answers 0) kind (delegate.securityFilter caller kind)

end MapGate.Catalog.Registry
