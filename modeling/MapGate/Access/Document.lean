import MapGate.Access.Decode
import MapGate.Region.Document

/-!
Limits and policies as documents. Limits name their kind and mode; what they leave out does not
restrict. A policy is made from limits in one of the ways there are, derived from another policy,
or given by level and response.
-/
namespace MapGate

namespace ReaderParams

def ofJson? : Json → Option ReaderParams :=
  Json.listOf? fun entry =>
    match entry with
    | .array [.string (some key), value] => (Value.ofJson? value).map ((key, ·))
    | _ => none

def toJson (params : ReaderParams) : Json :=
  .array (params.map fun (key, value) => .array [.ofString key, value.toJson])

end ReaderParams

namespace Limits

def ofJson? (j : Json) : Option Limits := do
  let mode ← j.require? "mode" Mode.ofJson?
  let readFilter ← j.memberOr? "read_filter" .always Predicate.ofJson?
  let texts? := Json.listOf? Json.text?
  match ← j.require? "kind" Json.text? with
  | "data" => return .data ⟨mode, readFilter⟩
  | "vector" =>
    let writeFilter ← j.memberOr? "write_filter" .always Predicate.ofJson?
    let readAttributes ← j.optional? "read_attributes" texts?
    let writeAttributes ← j.optional? "write_attributes" texts?
    let clipRegion ← j.optional? "clip_region" Region.ofJson?
    let intersectRegion ← j.optional? "intersect_region" Region.ofJson?
    return .vector ⟨mode, readFilter, writeFilter, readAttributes, writeAttributes, clipRegion,
      intersectRegion⟩
  | "coverage" =>
    let roi ← j.optional? "roi" Region.ofJson?
    let readerParams ← j.optional? "reader_params" ReaderParams.ofJson?
    return .coverage ⟨mode, readFilter, roi, readerParams⟩
  | "wms" =>
    let roi ← j.optional? "roi" Region.ofJson?
    let allowFeatureInfo ← j.memberOr? "allow_feature_info" true Json.bool?
    return .wms ⟨mode, readFilter, roi, allowFeatureInfo⟩
  | "wmts" =>
    let roi ← j.optional? "roi" Region.ofJson?
    return .wmts ⟨mode, readFilter, roi⟩
  | "workspace" =>
    let readable ← j.memberOr? "readable" true Json.bool?
    let writable ← j.memberOr? "writable" true Json.bool?
    let adminable ← j.memberOr? "adminable" true Json.bool?
    return .workspace ⟨mode, readable, writable, adminable⟩
  | "style" => return .style ⟨mode⟩
  | "layer_group" => return .layerGroup ⟨mode⟩
  | _ => none

/-- The members of limits other than kind and mode. -/
def ownMembers : Limits → List (String × Json)
  | data l => [("read_filter", l.readFilter.toJson)]
  | vector l => [
    ("read_filter", l.readFilter.toJson),
    ("write_filter", l.writeFilter.toJson),
    ("read_attributes", .optional .strings l.readAttributes),
    ("write_attributes", .optional .strings l.writeAttributes),
    ("clip_region", .optional Region.toJson l.clipRegion),
    ("intersect_region", .optional Region.toJson l.intersectRegion)]
  | coverage l => [
    ("read_filter", l.readFilter.toJson),
    ("roi", .optional Region.toJson l.roi),
    ("reader_params", .optional ReaderParams.toJson l.readerParams)]
  | wms l => [
    ("read_filter", l.readFilter.toJson),
    ("roi", .optional Region.toJson l.roi),
    ("allow_feature_info", .bool l.allowFeatureInfo)]
  | wmts l => [
    ("read_filter", l.readFilter.toJson),
    ("roi", .optional Region.toJson l.roi)]
  | workspace l => [
    ("readable", .bool l.readable),
    ("writable", .bool l.writable),
    ("adminable", .bool l.adminable)]
  | style _ => []
  | layerGroup _ => []

def toJson (l : Limits) : Json :=
  .record ([("kind", .ofString l.kind.text), ("mode", l.mode.toJson)] ++ l.ownMembers)

end Limits

namespace Policy

/-- The policy of a way of making one from limits. -/
def make? (way : String) (mixed : Option MixedBehavior) (limits : Option Limits) : Option Policy :=
  match way with
  | "hide" => some (hide limits)
  | "metadata" => some (metadata limits)
  | "read_only_challenge" => some (readOnlyChallenge limits)
  | "read_only_hide" => some (readOnlyHide limits)
  | "read_write" => some (readWrite limits)
  | "from_limits" => mixed.map (ofLimits limits)
  | _ => none

def mixed? : Json → Option MixedBehavior
  | .string (some "HIDE") => some .hide
  | .string (some "CHALLENGE") => some .challenge
  | _ => none

def underived? (j : Json) (limits : Option Limits) : Option Policy :=
  match j.present? "factory" with
  | some (.string (some way)) => make? way ((j.present? "mixed").bind mixed?) limits
  | some _ => none
  | none => do
    let level ← j.require? "level" AccessLevel.ofJson?
    let response ← j.require? "response" Response.ofJson?
    return ⟨level, response, limits⟩

/-- A policy, derived at most `depth` times. -/
def read? : Nat → Json → Option Policy
  | 0, _ => none
  | depth + 1, j =>
    match j.optional? "limits" Limits.ofJson? with
    | none => none
    | some limits =>
      match j.present? "derive" with
      | some base => (read? depth base).map (·.derive limits)
      | none => underived? j limits

def toJson (p : Policy) : Json :=
  .record [
    ("level", p.level.toJson),
    ("response", p.response.toJson),
    ("mode", .optional Mode.toJson p.mode?),
    ("limits", .optional Limits.toJson p.limits),
    ("hidden", .bool p.isHidden),
    ("can_read", .bool p.canRead),
    ("can_write", .bool p.canWrite),
    ("text", .ofString p.text)]

end Policy
end MapGate
