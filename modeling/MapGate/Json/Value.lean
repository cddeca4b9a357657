import MapGate.Number.Binary64

/-!
JSON values as far as they can be told apart: integers and floats are different, members of an
object are sorted by key and the last of several with one key counts.
-/
namespace MapGate

inductive Value where
  | null
  | bool (value : Bool)
  | integer (value : Int)
  | float (value : Binary64)
  | string (value : String)
  | array (items : List Value)
  | object (members : List (String × Value))
deriving Repr, Inhabited

namespace Value

/-- Puts a member in its place, over an earlier one with the same key. -/
def insertMember (key : String) (value : Value) : List (String × Value) → List (String × Value)
  | [] => [(key, value)]
  | (k, v) :: rest =>
    if key = k then (key, value) :: rest
    else if key < k then (key, value) :: (k, v) :: rest
    else (k, v) :: insertMember key value rest

def ofNumeral? (n : Numeral) : Option Value :=
  match n.integer? with
  | some i => some (integer i)
  | none => (Binary64.ofNumeral? n).map float

mutual

/-- The value a document denotes; `none` where it holds something that is no text or too large a
number. -/
def ofJson? : Json → Option Value
  | .null => some null
  | .bool b => some (bool b)
  | .number n => ofNumeral? n
  | .string s => s.map string
  | .array items => (ofItems? items).map array
  | .object members => (ofMembers? members []).map object

def ofItems? : List Json → Option (List Value)
  | [] => some []
  | item :: rest =>
    match ofJson? item, ofItems? rest with
    | some value, some values => some (value :: values)
    | _, _ => none

def ofMembers? : List (Option String × Json) → List (String × Value) →
    Option (List (String × Value))
  | [], acc => some acc
  | (key, item) :: rest, acc =>
    match key, ofJson? item with
    | some key, some value => ofMembers? rest (insertMember key value acc)
    | _, _ => none

end

mutual

def toJson : Value → Json
  | null => .null
  | bool b => .bool b
  | integer i => .ofInt i
  | float x => .number x.shortest
  | string s => .ofString s
  | array items => .array (itemsToJson items)
  | object members => .object (membersToJson members)

def itemsToJson : List Value → List Json
  | [] => []
  | item :: rest => toJson item :: itemsToJson rest

def membersToJson : List (String × Value) → List (Option String × Json)
  | [] => []
  | (key, value) :: rest => (some key, toJson value) :: membersToJson rest

end

mutual

/-- Equality of values. It differs from identity only in that the two float zeros are equal. -/
def same : Value → Value → Bool
  | null, null => true
  | bool a, bool b => a == b
  | integer a, integer b => a == b
  | float a, float b => a.same b
  | string a, string b => a == b
  | array a, array b => sameItems a b
  | object a, object b => sameMembers a b
  | _, _ => false

def sameItems : List Value → List Value → Bool
  | [], [] => true
  | a :: as, b :: bs => same a b && sameItems as bs
  | _, _ => false

def sameMembers : List (String × Value) → List (String × Value) → Bool
  | [], [] => true
  | (k, a) :: as, (l, b) :: bs => k == l && same a b && sameMembers as bs
  | _, _ => false

end

instance : BEq Value := ⟨same⟩

end Value
end MapGate
