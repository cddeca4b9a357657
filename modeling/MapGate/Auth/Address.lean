import MapGate.Text.Blank
import MapGate.Text.Digit

/-!
Internet addresses and networks. An address is four decimal bytes, or eight groups of up to four
hexadecimal digits, of which one run of zero groups may be left out as `::` and the last two may be
written as four decimal bytes. A network is an address and a number of leading bits; the bits
behind them are kept and do not count.
-/
namespace MapGate

inductive Address where
  | v4 (bits : BitVec 32)
  | v6 (bits : BitVec 128)
deriving DecidableEq, Repr

namespace Address

/-- The IPv4 address inside an IPv4-mapped IPv6 address. -/
def mapped? (bits : BitVec 128) : Option (BitVec 32) :=
  if bits >>> 32 = 0xFFFF#128 then some (bits.setWidth 32) else none

/-- An IPv4-mapped address in its IPv4 form, any other as it is. -/
def canonical : Address → Address
  | v4 bits => v4 bits
  | v6 bits =>
    match mapped? bits with
    | some inner => v4 inner
    | none => v6 bits

/-- A decimal byte of at most three digits, with leading zeros only where `padded` allows them. -/
def octet? (padded : Bool) (cs : List Char) : Option Nat :=
  if cs.length ≤ 3 && (padded || cs.length == 1 || cs.head? != some '0') then
    match Text.number? 10 cs with
    | some n => if n < 256 then some n else none
    | none => none
  else none

def octets? (padded : Bool) (cs : List Char) : Option Nat :=
  match (Text.split '.' cs).map (octet? padded) with
  | [some a, some b, some c, some d] => some (((a * 256 + b) * 256 + c) * 256 + d)
  | _ => none

/-- A group of one to four hexadecimal digits. -/
def group? (cs : List Char) : Option Nat := if cs.length ≤ 4 then Text.number? 16 cs else none

/-- The groups of a piece list, the last piece possibly four decimal bytes. -/
def groupsOf? (padded : Bool) : List (List Char) → Option (List Nat)
  | [] => some []
  | [last] =>
    match group? last with
    | some g => some [g]
    | none => (octets? padded last).map fun n => [n / 65536, n % 65536]
  | piece :: rest =>
    match group? piece, groupsOf? padded rest with
    | some g, some gs => some (g :: gs)
    | _, _ => none

/-- The groups between colons; the empty text has none. -/
def groups? (padded : Bool) (cs : List Char) : Option (List Nat) :=
  if cs.isEmpty then some [] else groupsOf? padded (Text.split ':' cs)

/-- What stands before and after the first double colon. -/
def cutGap? : List Char → Option (List Char × List Char)
  | [] => none
  | ':' :: ':' :: rest => some ([], rest)
  | c :: rest => (cutGap? rest).map fun (before, after) => (c :: before, after)

def joinGroups (groups : List Nat) : Nat := groups.foldl (fun acc g => acc * 65536 + g) 0

def v6? (padded : Bool) (cs : List Char) : Option (BitVec 128) :=
  match cutGap? cs with
  | none =>
    match groups? padded cs with
    | some gs => if gs.length = 8 then some (BitVec.ofNat 128 (joinGroups gs)) else none
    | none => none
  | some (before, after) =>
    match groups? padded before, groups? padded after with
    | some front, some back =>
      if before.contains '.' then none
      else if front.length + back.length ≤ 7 then
        let zeros := List.replicate (8 - front.length - back.length) 0
        some (BitVec.ofNat 128 (joinGroups (front ++ zeros ++ back)))
      else none
    | _, _ => none

/-- The address a text spells, its decimal bytes with leading zeros only where `padded` allows. -/
def read? (padded : Bool) (cs : List Char) : Option Address :=
  match octets? padded cs with
  | some n => some (v4 (BitVec.ofNat 32 n))
  | none => (v6? padded cs).map v6

/-- An address on its own, which has no leading zeros in its decimal bytes. -/
def ofChars? (cs : List Char) : Option Address := read? false cs

def parse? (s : String) : Option Address := ofChars? s.toList

def octetsText (bits : BitVec 32) : String :=
  let n := bits.toNat
  String.intercalate "." ([n / 16777216, n / 65536 % 256, n / 256 % 256, n % 256].map toString)

def groupsOf (bits : BitVec 128) : List Nat :=
  (List.range 8).map fun i => (bits >>> (16 * (7 - i))).toNat % 65536

def zeroRun (groups : List Nat) : Nat := (groups.takeWhile (· == 0)).length

/-- Start and length of the longest run of zero groups, the first of equals. -/
def longestRun : Nat → List Nat → Nat × Nat
  | i, [] => (i, 0)
  | i, g :: rest =>
    let here := zeroRun (g :: rest)
    let later := longestRun (i + 1) rest
    if here ≥ later.2 then (i, here) else later

def groupsText (groups : List Nat) : String :=
  String.intercalate ":" (groups.map fun g => String.ofList (Nat.toDigits 16 g))

/-- The shortest spelling: the longest run of at least two zero groups is left out, and an
IPv4-mapped address ends in decimal bytes. -/
def text : Address → String
  | v4 bits => octetsText bits
  | v6 bits =>
    match mapped? bits with
    | some inner => "::ffff:" ++ octetsText inner
    | none =>
      let groups := groupsOf bits
      let (start, length) := longestRun 0 groups
      if 1 < length then
        groupsText (groups.take start) ++ "::" ++ groupsText (groups.drop (start + length))
      else groupsText groups

end Address

inductive Network where
  | v4 (bits : BitVec 32) (length : Nat)
  | v6 (bits : BitVec 128) (length : Nat)
deriving DecidableEq, Repr

namespace Network

/-- Whether two words agree in their first `length` bits. -/
def samePrefix {width : Nat} (a b : BitVec width) (length : Nat) : Bool :=
  a >>> (width - length) == b >>> (width - length)

def contains : Network → Address → Bool
  | v4 bits length, .v4 a => samePrefix bits a length
  | v6 bits length, .v6 a => samePrefix bits a length
  | _, _ => false

/-- A number of leading bits with at most `digits` digits and at most `width`. -/
def prefixLength? (digits width : Nat) (cs : List Char) : Option Nat :=
  if cs.length ≤ digits then
    match Text.number? 10 cs with
    | some n => if n ≤ width then some n else none
    | none => none
  else none

/-- An address and a number of leading bits with a slash between. Here decimal bytes may have
leading zeros, as the number of bits may. -/
def ofChars? (cs : List Char) : Option Network :=
  match Text.split '/' cs with
  | [address, length] =>
    match Address.read? true address with
    | some (.v4 bits) => (prefixLength? 2 32 length).map (v4 bits)
    | some (.v6 bits) => (prefixLength? 3 128 length).map (v6 bits)
    | none => none
  | _ => none

def text : Network → String
  | v4 bits length => (Address.v4 bits).text ++ "/" ++ toString length
  | v6 bits length => (Address.v6 bits).text ++ "/" ++ toString length

end Network
end MapGate
