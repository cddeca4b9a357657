import MapGate.Access.Predicate
import MapGate.Catalog.Entity

/-!
Catalog filters. A filter may hide entities and add predicates to catalog queries, each through a
hook of its own; an absent hook never hides and adds nothing. An entity is hidden as soon as one
filter of a list hides it, and the predicates of all filters are joined to the delegate's.
-/
namespace MapGate.Catalog

structure Filter where
  name : String
  hideResource : Option (Resource → Bool) := none
  hideLayer : Option (Layer → Bool) := none
  hideWorkspace : Option (Workspace → Bool) := none
  hideStyle : Option (Style → Bool) := none
  hideLayerGroup : Option (LayerGroup → Bool) := none
  securityFilter : Option (EntityKind → Predicate) := none

namespace Filter

def verdict {α : Type} (hook : Option (α → Bool)) (a : α) : Bool :=
  match hook with
  | some f => f a
  | none => false

def hides (f : Filter) : Entity → Bool
  | .workspace w => verdict f.hideWorkspace w
  | .layer l => verdict f.hideLayer l
  | .resource r => verdict f.hideResource r
  | .style s => verdict f.hideStyle s
  | .layerGroup g => verdict f.hideLayerGroup g

def predicate (f : Filter) (kind : EntityKind) : Predicate :=
  match f.securityFilter with
  | some hook => hook kind
  | none => .always

end Filter

def hiddenBy (filters : List Filter) (e : Entity) : Bool := filters.any fun f => f.hides e

/-- The delegate's predicate and those of all filters; without filters the delegate's own. -/
def restrict (filters : List Filter) (kind : EntityKind) (delegate : Predicate) : Predicate :=
  filters.foldl (fun acc f => acc.and (f.predicate kind)) delegate

end MapGate.Catalog
