import MapGate.Catalog.Filter
import MapGate.Text.Quoted

/-!
The registry of catalog filters. The list comes from a loader at the first access and is kept
until the registry is reset. What the loader would answer now is an argument of each access; the
registry counts how often it asked.
-/
namespace MapGate.Catalog

structure Registry where
  loaded : Option (List Filter) := none
  loads : Nat := 0

namespace Registry

/-- The filters in force, and the registry after the access. -/
def filters (r : Registry) (answer : List Filter) : List Filter × Registry :=
  match r.loaded with
  | some list => (list, r)
  | none => (answer, ⟨some answer, r.loads + 1⟩)

/-- Forgets the list; the next access asks the loader again. -/
def reset (r : Registry) : Registry := { r with loaded := none }

/-- Whether a filter in force hides the entity. -/
def isHidden (r : Registry) (answer : List Filter) (e : Entity) : Bool × Registry :=
  let (list, r) := r.filters answer
  (hiddenBy list e, r)

/-- The delegate's predicate and those of the filters in force. -/
def combinedFilter (r : Registry) (answer : List Filter) (kind : EntityKind)
    (delegate : Predicate) : Predicate × Registry :=
  let (list, r) := r.filters answer
  (restrict list kind delegate, r)

def describeFilter (f : Filter) : String :=
  "CatalogFilter \x7b name: " ++ Text.quoted f.name ++
  ", hide_resource: " ++ Text.ofBool f.hideResource.isSome ++
  ", hide_layer: " ++ Text.ofBool f.hideLayer.isSome ++
  ", hide_workspace: " ++ Text.ofBool f.hideWorkspace.isSome ++
  ", hide_style: " ++ Text.ofBool f.hideStyle.isSome ++
  ", hide_layer_group: " ++ Text.ofBool f.hideLayerGroup.isSome ++
  ", security_filter: " ++ Text.ofBool f.securityFilter.isSome ++ " \x7d"

/-- What the registry holds, without loading. -/
def describe (r : Registry) : String :=
  let list :=
    match r.loaded with
    | none => "None"
    | some fs => "Some([" ++ String.intercalate ", " (fs.map describeFilter) ++ "])"
  "CatalogFilterRegistry \x7b filters: " ++ list ++ " \x7d"

end Registry
end MapGate.Catalog
