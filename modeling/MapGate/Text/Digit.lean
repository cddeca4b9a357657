/-!
Digits and the numbers they spell.
-/
namespace MapGate.Text

/-- The value of an ASCII digit or letter `a`–`f` in either case. -/
def hexValue? (c : Char) : Option Nat :=
  if '0' ≤ c ∧ c ≤ '9' then some (c.toNat - '0'.toNat)
  else if 'a' ≤ c ∧ c ≤ 'f' then some (c.toNat - 'a'.toNat + 10)
  else if 'A' ≤ c ∧ c ≤ 'F' then some (c.toNat - 'A'.toNat + 10)
  else none

/-- The value of `c` as a digit in a base up to sixteen. -/
def digitValue? (base : Nat) (c : Char) : Option Nat :=
  match hexValue? c with
  | some d => if d < base then some d else none
  | none => none

/-- The number spelled by digits, most significant first; `none` at a character that is no digit. -/
def numberFrom? (base : Nat) (acc : Nat) : List Char → Option Nat
  | [] => some acc
  | c :: rest =>
    match digitValue? base c with
    | some d => numberFrom? base (acc * base + d) rest
    | none => none

/-- The number spelled by a non-empty run of digits. -/
def number? (base : Nat) (cs : List Char) : Option Nat :=
  if cs.isEmpty then none else numberFrom? base 0 cs

def spanDigits (base : Nat) (cs : List Char) : List Char × List Char :=
  (cs.takeWhile (fun c => (digitValue? base c).isSome),
    cs.dropWhile (fun c => (digitValue? base c).isSome))

def padZeros (width : Nat) (cs : List Char) : List Char :=
  List.replicate (width - cs.length) '0' ++ cs

end MapGate.Text
