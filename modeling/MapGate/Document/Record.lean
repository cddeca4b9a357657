import MapGate.Json.Basic
import MapGate.Toml.Value

/-!
Reading records out of documents, whatever their format. A record is an object, of which unknown
members are ignored and no known one may come twice, or an array of its fields in order. Absent
optional fields of an object are empty, while in an array they must be there, unless the field has
a default.
-/
namespace MapGate

/-- What the top of a document in some format shows. -/
inductive View (δ : Type) where
  | null
  | flag (value : Bool)
  | integer (value : Int)
  | text (value : String)
  | list (items : List δ)
  | object (members : List (String × δ))
  | other

class Document (δ : Type) where
  view : δ → View δ
  /-- Whether an array may be longer than the record it is read as. -/
  longArrays : Bool

/-- The members of an object, if every key is a text. -/
def Json.textMembers? : List (Option String × Json) → Option (List (String × Json))
  | [] => some []
  | (some key, value) :: rest => (textMembers? rest).map ((key, value) :: ·)
  | (none, _) :: _ => none

instance : Document Json where
  longArrays := false
  view
    | .null => .null
    | .bool b => .flag b
    | .number n => match n.integer? with
      | some i => .integer i
      | none => .other
    | .string s => match s with
      | some text => .text text
      | none => .other
    | .array items => .list items
    | .object members => match Json.textMembers? members with
      | some members => .object members
      | none => .other

instance : Document Toml.Value where
  longArrays := true
  view
    | .string s => .text s
    | .integer i => .integer i
    | .float _ => .other
    | .boolean b => .flag b
    | .datetime _ => .other
    | .array items => .list items
    | .table members => .object members

namespace Document

variable {δ : Type} [Document δ]

def text? (d : δ) : Option String :=
  match view d with
  | .text s => some s
  | _ => none

def flag? (d : δ) : Option Bool :=
  match view d with
  | .flag b => some b
  | _ => none

def natBelow? (limit : Nat) (d : δ) : Option Nat :=
  match view d with
  | .integer i => if 0 ≤ i ∧ i < limit then some i.toNat else none
  | _ => none

def word64? (d : δ) : Option UInt64 := (natBelow? UInt64.size d).map UInt64.ofNat

def word32? (d : δ) : Option UInt32 := (natBelow? UInt32.size d).map UInt32.ofNat

def list? {α : Type} (item? : δ → Option α) (d : δ) : Option (List α) :=
  match view d with
  | .list items => items.mapM item?
  | _ => none

def texts? (d : δ) : Option (List String) := list? text? d

/-- An optional value, which `null` leaves empty. -/
def nullable? {α : Type} (value? : δ → Option α) (d : δ) : Option (Option α) :=
  match view d with
  | .null => some none
  | _ => (value? d).map some

end Document

/-- The fields of a record as far as they are there, and whether they came without names. -/
structure Record (δ : Type) where
  positional : Bool
  fields : List (String × δ)

namespace Record

variable {δ : Type} [Document δ]

/-- The known members, refused when one comes twice. -/
def knownMembers? (names : List String) : List (String × δ) → Option (List (String × δ))
  | [] => some []
  | (key, value) :: rest =>
    match knownMembers? names rest with
    | none => none
    | some known =>
      if !names.contains key then some known
      else if known.any fun m => m.1 == key then none
      else some ((key, value) :: known)

/-- The record with these field names that a document holds. -/
def ofDocument? (names : List String) (d : δ) : Option (Record δ) :=
  match Document.view d with
  | .object members => (knownMembers? names members).map fun fields => ⟨false, fields⟩
  | .list items =>
    if items.length ≤ names.length || Document.longArrays δ then
      some ⟨true, names.zip items⟩
    else none
  | _ => none

def field? (r : Record δ) (name : String) : Option δ :=
  match r.fields.find? fun f => f.1 == name with
  | some (_, value) => some value
  | none => none

def required? {α : Type} (r : Record δ) (name : String) (value? : δ → Option α) : Option α :=
  match r.field? name with
  | some d => value? d
  | none => none

def defaulted? {α : Type} (r : Record δ) (name : String) (fallback : α) (value? : δ → Option α) :
    Option α :=
  match r.field? name with
  | some d => value? d
  | none => some fallback

/-- A field that may be empty; an object may also leave it out. -/
def optional? {α : Type} (r : Record δ) (name : String) (value? : δ → Option α) :
    Option (Option α) :=
  match r.field? name with
  | some d => Document.nullable? value? d
  | none => if r.positional then none else some none

end Record

namespace Json

/-- The name of a variant without content, as a text or as an object that maps it to null. -/
def variantName? : Json → Option String
  | .string s => s
  | .object [(some name, .null)] => some name
  | _ => none

end Json
end MapGate
