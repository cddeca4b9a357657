/-!
TOML values and the building of tables. A table is opened by a header, implied by the header of a
table inside it, or made by a dotted key; how it came about decides what may still be added. No key
is defined twice.
-/
namespace MapGate.Toml

inductive Value where
  | string (text : String)
  | integer (value : Int)
  | float (spelling : String)
  | boolean (value : Bool)
  | datetime (spelling : String)
  | array (items : List Value)
  | table (members : List (String × Value))
deriving Repr, Inhabited

inductive Origin where
  | header
  | implied
  | dotted
deriving DecidableEq, Repr

/-- The content of a document while it is read. -/
inductive Node where
  | value (v : Value)
  | table (origin : Origin) (members : List (String × Node))
  | tables (elements : List (List (String × Node)))
deriving Repr, Inhabited

abbrev Members := List (String × Node)

namespace Members

def find? (key : String) (ms : Members) : Option Node :=
  match List.find? (fun m => m.1 == key) ms with
  | some (_, node) => some node
  | none => none

/-- Puts a node in the place of an earlier one with the same key, or at the end. -/
def set (key : String) (node : Node) : Members → Members
  | [] => [(key, node)]
  | (k, old) :: rest => if k = key then (key, node) :: rest else (k, old) :: set key node rest

def changeLast (change : Members → Option Members) : List Members → Option (List Members)
  | [] => none
  | [last] => (change last).map fun ms => [ms]
  | first :: rest => (changeLast change rest).map (first :: ·)

/-- Defines a value under a dotted key. The tables on the way must not have a header; the last of
them must be one that dotted keys made. -/
def define (value : Value) : List String → Members → Option Members
  | [], _ => none
  | [key], ms =>
    match ms.find? key with
    | some _ => none
    | none => some (set key (.value value) ms)
  | key :: rest, ms =>
    match ms.find? key with
    | none => (define value rest []).map fun sub => set key (.table .dotted sub) ms
    | some (.table .dotted sub) =>
      (define value rest sub).map fun sub => set key (.table .dotted sub) ms
    | some (.table .implied sub) =>
      if rest.length < 2 then none
      else (define value rest sub).map fun sub => set key (.table .implied sub) ms
    | some (.tables elements) =>
      if rest.length < 2 then none
      else (changeLast (define value rest) elements).map fun es => set key (.tables es) ms
    | some _ => none

/-- Changes the table at a path. Missing tables on the way are implied; of an array of tables the
last element counts. -/
def changeAt (change : Members → Option Members) : List String → Members → Option Members
  | [], ms => change ms
  | key :: rest, ms =>
    match ms.find? key with
    | none => (changeAt change rest []).map fun sub => set key (.table .implied sub) ms
    | some (.value _) => none
    | some (.table origin sub) =>
      (changeAt change rest sub).map fun sub => set key (.table origin sub) ms
    | some (.tables elements) =>
      (changeLast (changeAt change rest) elements).map fun es => set key (.tables es) ms

/-- Opens the table of a header. Only a table that was merely implied may exist already. -/
def openTable (key : String) (ms : Members) : Option Members :=
  match ms.find? key with
  | none => some (set key (.table .header []) ms)
  | some (.table .implied sub) => some (set key (.table .header sub) ms)
  | some _ => none

/-- Opens a further element of an array of tables. -/
def openElement (key : String) (ms : Members) : Option Members :=
  match ms.find? key with
  | none => some (set key (.tables [[]]) ms)
  | some (.tables elements) => some (set key (.tables (elements ++ [[]])) ms)
  | some _ => none

end Members

mutual

def Node.toValue : Node → Value
  | .value v => v
  | .table _ members => .table (membersToValues members)
  | .tables elements => .array (elementsToValues elements)

def membersToValues : List (String × Node) → List (String × Value)
  | [] => []
  | (key, node) :: rest => (key, node.toValue) :: membersToValues rest

def elementsToValues : List (List (String × Node)) → List Value
  | [] => []
  | members :: rest => .table (membersToValues members) :: elementsToValues rest

end

end MapGate.Toml
