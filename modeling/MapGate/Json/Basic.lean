import MapGate.Text.Digit

/-!
JSON documents as they are written. Numbers stay exact decimals, so that `1` and `1.0` differ and
no digit is lost, and objects keep every member in order. A string that spells an unpaired
surrogate is no text; it is kept as `none`.
-/
namespace MapGate

/-- The decimal `± coefficient · 10 ^ exponent`, `integral` when it has neither point nor exponent. -/
structure Numeral where
  negative : Bool
  coefficient : Nat
  exponent : Int
  integral : Bool
deriving DecidableEq, Repr

inductive Json where
  | null
  | bool (value : Bool)
  | number (value : Numeral)
  | string (value : Option String)
  | array (items : List Json)
  | object (members : List (Option String × Json))
deriving Repr, Inhabited

namespace Numeral

def ofNat (n : Nat) : Numeral := ⟨false, n, 0, true⟩

def ofInt (i : Int) : Numeral := ⟨decide (i < 0), i.natAbs, 0, true⟩

/-- The integer a numeral stands for, in the joint range of signed and unsigned 64-bit words.
`-0` is a float. -/
def integer? (n : Numeral) : Option Int :=
  if !n.integral then none
  else if n.negative then
    if n.coefficient = 0 ∨ UInt64.size / 2 < n.coefficient then none
    else some (-(n.coefficient : Int))
  else if n.coefficient < UInt64.size then some n.coefficient else none

/-- The numeral in JSON's spelling, positional where the exponent is small. -/
def render (n : Numeral) : String :=
  let sign := if n.negative then "-" else ""
  let digits := (toString n.coefficient).toList
  if n.integral then sign ++ String.ofList digits
  else if 0 ≤ n.exponent then
    if n.exponent ≤ 30 then
      sign ++ String.ofList (digits ++ List.replicate n.exponent.toNat '0') ++ ".0"
    else sign ++ String.ofList digits ++ "e" ++ toString n.exponent
  else if -30 ≤ n.exponent then
    let places := n.exponent.natAbs
    let padded := Text.padZeros (places + 1) digits
    sign ++ String.ofList (padded.take (padded.length - places)) ++ "." ++
      String.ofList (padded.drop (padded.length - places))
  else sign ++ String.ofList digits ++ "e" ++ toString n.exponent

end Numeral

namespace Json

mutual

def depth : Json → Nat
  | array items => depthOfItems items + 1
  | object members => depthOfMembers members + 1
  | _ => 0

def depthOfItems : List Json → Nat
  | [] => 0
  | item :: rest => max item.depth (depthOfItems rest)

def depthOfMembers : List (Option String × Json) → Nat
  | [] => 0
  | (_, value) :: rest => max value.depth (depthOfMembers rest)

end

def ofString (s : String) : Json := string (some s)

def ofNat (n : Nat) : Json := number (Numeral.ofNat n)

def ofWord64 (n : UInt64) : Json := ofNat n.toNat

def ofWord32 (n : UInt32) : Json := ofNat n.toNat

def ofInt (i : Int) : Json := number (Numeral.ofInt i)

def strings (items : List String) : Json := array (items.map ofString)

def record (members : List (String × Json)) : Json :=
  object (members.map fun (key, value) => (some key, value))

def optional {α : Type} (encode : α → Json) : Option α → Json
  | none => null
  | some value => encode value

def member? (key : String) : Json → Option Json
  | object members => (members.find? fun entry => entry.1 == some key).map Prod.snd
  | _ => none

def present? (key : String) (j : Json) : Option Json :=
  match j.member? key with
  | some null => none
  | other => other

def text? : Json → Option String
  | string s => s
  | _ => none

def bool? : Json → Option Bool
  | bool b => some b
  | _ => none

def nat? : Json → Option Nat
  | number n =>
    match n.integer? with
    | some i => if 0 ≤ i then some i.toNat else none
    | none => none
  | _ => none

def listOf? {α : Type} (item? : Json → Option α) : Json → Option (List α)
  | array items => items.mapM item?
  | _ => none

/-- A member that may be left out; a missing one gives `fallback`, a malformed one nothing. -/
def memberOr? {α : Type} (key : String) (fallback : α) (value? : Json → Option α) (j : Json) :
    Option α :=
  match j.present? key with
  | none => some fallback
  | some v => value? v

def require? {α : Type} (key : String) (value? : Json → Option α) (j : Json) : Option α :=
  (j.present? key).bind value?

def optional? {α : Type} (key : String) (value? : Json → Option α) (j : Json) : Option (Option α) :=
  j.memberOr? key none fun v => (value? v).map some

end Json
end MapGate
