import MapGate.Auth.Event
import MapGate.Document.Record

/-!
Authentication events as documents.
-/
namespace MapGate

namespace Address

def ofJson? (j : Json) : Option Address := (Document.text? j).bind parse?

def toJson (a : Address) : Json := .ofString a.text

end Address

namespace EventKind

def ofJson? (j : Json) : Option EventKind := j.variantName?.bind ofText?

def toJson (k : EventKind) : Json := .ofString k.text

end EventKind

namespace AuthEvent

def ofJson? (j : Json) : Option AuthEvent := do
  let r ← Record.ofDocument? ["kind", "username", "source_address"] j
  let kind ← r.required? "kind" EventKind.ofJson?
  let username ← r.optional? "username" Document.text?
  let source ← r.optional? "source_address" Address.ofJson?
  return ⟨kind, username, source⟩

def toJson (e : AuthEvent) : Json :=
  .record [("kind", e.kind.toJson), ("username", .optional .ofString e.username),
    ("source_address", .optional Address.toJson e.source)]

end AuthEvent
end MapGate
