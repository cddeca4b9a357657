import MapGate.Access.Policy
import MapGate.Document.Record
import MapGate.Json.Reader

/-!
Modes, levels, responses and predicates as documents. A predicate is the name of a sentinel, or an
object with one member: an expression, or the parts of a conjunction. Reading takes a conjunction
as it is, of any shape. A text whose objects and lists are nested too deep is refused.
-/
namespace MapGate

namespace Mode

def ofJson? (j : Json) : Option Mode := j.variantName?.bind ofText?

def toJson (m : Mode) : Json := .ofString m.text

end Mode

namespace AccessLevel

def ofJson? (j : Json) : Option AccessLevel := j.variantName?.bind ofText?

def toJson (l : AccessLevel) : Json := .ofString l.text

end AccessLevel

namespace Response

def ofJson? (j : Json) : Option Response := j.variantName?.bind ofText?

def toJson (r : Response) : Json := .ofString r.text

end Response

namespace Predicate

def sentinel? : String → Option Predicate
  | "always" => some always
  | "never" => some never
  | _ => none

mutual

def ofJson? : Json → Option Predicate
  | .string (some name) => sentinel? name
  | .object [(some key, content)] => ofMember? key content
  | _ => none

def ofMember? (key : String) : Json → Option Predicate
  | .null => sentinel? key
  | .string (some s) => if key = "expr" then some (expr s) else none
  | .array parts => if key = "and" then (ofParts? parts).map conj else none
  | _ => none

def ofParts? : List Json → Option (List Predicate)
  | [] => some []
  | part :: rest =>
    match ofJson? part, ofParts? rest with
    | some p, some ps => some (p :: ps)
    | _, _ => none

end

/-- The texts that are read are nested less deep than this. -/
def nestingLimit : Nat := 128

def parse? (text : String) : Option Predicate :=
  match Json.parse? text with
  | some j => if j.depth < nestingLimit then ofJson? j else none
  | none => none

mutual

def toJson : Predicate → Json
  | always => .ofString "always"
  | never => .ofString "never"
  | expr s => .record [("expr", .ofString s)]
  | conj ps => .record [("and", .array (partsToJson ps))]

def partsToJson : List Predicate → List Json
  | [] => []
  | p :: rest => p.toJson :: partsToJson rest

end

end Predicate
end MapGate
