import MapGate.Access.Document
import MapGate.Catalog.AccessManager
import MapGate.Catalog.Decode

/-!
Catalog filters and access managers that are declared by documents. The hide hooks of a declared
filter are conditions on names, workspaces and kinds. A declared manager grants everything, gives
the same limits to everyone but the holders of one role, or stands behind declared filters.
-/
namespace MapGate.Catalog

/-- Holds of every entity, or of those with a listed name, start of the name, workspace or kind. -/
structure Condition where
  all : Bool
  names : List String
  starts : List String
  workspaces : List String
  kinds : List String
deriving DecidableEq, Repr

namespace Condition

def ofJson? (j : Json) : Option Condition := do
  let texts? := Json.listOf? Json.text?
  let all ← j.memberOr? "all" false Json.bool?
  let names ← j.memberOr? "names" [] texts?
  let starts ← j.memberOr? "prefixes" [] texts?
  let workspaces ← j.memberOr? "workspaces" [] texts?
  let kinds ← j.memberOr? "kinds" [] texts?
  return ⟨all, names, starts, workspaces, kinds⟩

def holds (c : Condition) (name : String) (workspace kind : Option String) : Bool :=
  c.all || c.names.contains name ||
    c.starts.any (fun start => start.toList.isPrefixOf name.toList) ||
    workspace.any c.workspaces.contains || kind.any c.kinds.contains

end Condition

/-- Predicates by the name of a kind; the entry of `*` is for all other kinds. -/
def predicateFor (entries : List (String × Predicate)) (kind : EntityKind) : Predicate :=
  match entries.lookup kind.text with
  | some p => p
  | none => (entries.lookup "*").getD .always

def Filter.ofJson? (j : Json) : Option Filter := do
  let name ← j.require? "name" Json.text?
  let workspace ← j.optional? "hide_workspace" Condition.ofJson?
  let layer ← j.optional? "hide_layer" Condition.ofJson?
  let resource ← j.optional? "hide_resource" Condition.ofJson?
  let style ← j.optional? "hide_style" Condition.ofJson?
  let group ← j.optional? "hide_layer_group" Condition.ofJson?
  let entries ← j.optional? "security_filter" fun hook =>
    match hook with
    | .object members => members.mapM fun (key, p) => do return (← key, ← Predicate.ofJson? p)
    | _ => none
  return {
    name := name
    hideWorkspace := workspace.map fun c w => c.holds w.name (some w.name) none
    hideLayer := layer.map fun c l =>
      c.holds l.name (some l.resource.workspace) (some l.resource.kind.text)
    hideResource := resource.map fun c r => c.holds r.name (some r.workspace) (some r.kind.text)
    hideStyle := style.map fun c s => c.holds s.name s.workspace none
    hideLayerGroup := group.map fun c g => c.holds g.name g.workspace none
    securityFilter := entries.map predicateFor }

namespace AccessManager

/-- The limits of one kind inside limits of any kind. -/
def only {α : Type} (pick : Limits → Option α) : Option Limits → Option α
  | some l => pick l
  | none => none

def fixed? (j : Json) : Option AccessManager := do
  let unrestricted ← j.optional? "admin_role" Json.text?
  let workspace ← j.optional? "workspace" Limits.ofJson?
  let layer ← j.optional? "layer" Limits.ofJson?
  let resource ← j.optional? "resource" Limits.ofJson?
  let style ← j.optional? "style" Limits.ofJson?
  let group ← j.optional? "layer_group" Limits.ofJson?
  let anonymous ← j.memberOr? "anonymous_filter" .always Predicate.ofJson?
  let user ← j.memberOr? "user_filter" .always Predicate.ofJson?
  let restrict {α : Type} (c : Caller) (limits : Option α) : Option α :=
    if unrestricted.any c.hasRole then none else limits
  return {
    workspaceLimits := fun c _ => restrict c (only (fun | .workspace l => some l | _ => none) workspace)
    layerLimits := fun c _ => restrict c layer
    resourceLimits := fun c _ => restrict c resource
    styleLimits := fun c _ => restrict c (only (fun | .style l => some l | _ => none) style)
    layerGroupLimits := fun c _ =>
      restrict c (only (fun | .layerGroup l => some l | _ => none) group)
    securityFilter := fun c _ => if c.isAnonymous then anonymous else user }

/-- The manager a document declares, with at most `depth` managers inside each other. -/
def declared? : Nat → Option Json → Option AccessManager
  | 0, _ => none
  | _ + 1, none => some allowAll
  | _ + 1, some .null => some allowAll
  | depth + 1, some j =>
    match j.present? "fixed", j.present? "filtered" with
    | some f, none => fixed? f
    | none, some f =>
      match f.memberOr? "filters" [] (Json.listOf? Filter.ofJson?),
          declared? depth (f.present? "delegate") with
      | some filters, some delegate => some (filtered filters delegate)
      | _, _ => none
    | _, _ => none

end AccessManager
end MapGate.Catalog
