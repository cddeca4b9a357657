import MapGate.Json.Basic

/-!
Double precision numbers as exact binary fractions `± significand · 2 ^ scale`: the nearest double
of a decimal, ties to the even significand, and the shortest decimal that reads back to a double.
-/
namespace MapGate

/-- A finite double. The significand has at most 53 bits and the scale is at least `-1074`; zero
has scale `-1074`. -/
structure Binary64 where
  negative : Bool
  significand : Nat
  scale : Int
deriving DecidableEq, Repr

namespace Binary64

def twoTo (n : Nat) : Nat := Nat.pow 2 n

def tenTo (n : Nat) : Nat := Nat.pow 10 n

/-- `numerator / denominator`, to the nearest integer, a half to the even one. -/
def divideToEven (numerator denominator : Nat) : Nat :=
  let quotient := numerator / denominator
  let rest := numerator % denominator
  if 2 * rest < denominator then quotient
  else if denominator < 2 * rest then quotient + 1
  else if quotient % 2 = 0 then quotient else quotient + 1

/-- `numerator / (denominator · 2 ^ scale)` as a fraction. -/
def scaled (numerator denominator : Nat) (scale : Int) : Nat × Nat :=
  if 0 ≤ scale then (numerator, denominator * twoTo scale.toNat)
  else (numerator * twoTo scale.natAbs, denominator)

/-- The scale at which a fraction has a significand of 53 bits, or the least scale there is. -/
def scaleOf (numerator denominator : Nat) : Int :=
  let guess : Int := max ((Nat.log2 numerator : Int) - Nat.log2 denominator - 52) (-1074)
  let (top, bottom) := scaled numerator denominator guess
  if twoTo 53 * bottom ≤ top then guess + 1
  else if top < twoTo 52 * bottom ∧ -1074 < guess then guess - 1
  else guess

/-- The double nearest to a fraction; `none` when it is too large. -/
def nearest? (negative : Bool) (numerator denominator : Nat) : Option Binary64 :=
  if numerator = 0 then some ⟨negative, 0, -1074⟩
  else
    let scale := scaleOf numerator denominator
    let (top, bottom) := scaled numerator denominator scale
    let significand := divideToEven top bottom
    let (significand, scale) : Nat × Int :=
      if significand = twoTo 53 then (twoTo 52, scale + 1) else (significand, scale)
    if significand = 0 then some ⟨negative, 0, -1074⟩
    else if 971 < scale then none
    else some ⟨negative, significand, scale⟩

/-- The double nearest to `± coefficient · 10 ^ exponent`. -/
def ofDecimal? (negative : Bool) (coefficient : Nat) (exponent : Int) : Option Binary64 :=
  if coefficient = 0 then some ⟨negative, 0, -1074⟩
  else
    let digits := (Nat.toDigits 10 coefficient).length
    if 400 < exponent + digits then none
    else if exponent + digits < -400 then some ⟨negative, 0, -1074⟩
    else if 0 ≤ exponent then nearest? negative (coefficient * tenTo exponent.toNat) 1
    else nearest? negative coefficient (tenTo exponent.natAbs)

def ofNumeral? (n : Numeral) : Option Binary64 := ofDecimal? n.negative n.coefficient n.exponent

def toRat (x : Binary64) : Rat :=
  let magnitude : Rat :=
    if 0 ≤ x.scale then ((x.significand * twoTo x.scale.toNat : Nat) : Rat)
    else mkRat x.significand (twoTo x.scale.natAbs)
  if x.negative then -magnitude else magnitude

/-- Equality as numbers: the two zeros are equal. -/
def same (x y : Binary64) : Bool :=
  x.significand == y.significand && x.scale == y.scale &&
    (x.negative == y.negative || x.significand == 0)

/-- The largest power of ten, as exponent, that is at most a positive fraction. -/
def decimalPlace (numerator denominator : Nat) : Int :=
  let guess : Int :=
    (Nat.toDigits 10 numerator).length - (Nat.toDigits 10 denominator).length
  let reaches : Bool :=
    if 0 ≤ guess then denominator * tenTo guess.toNat ≤ numerator
    else denominator ≤ numerator * tenTo guess.natAbs
  if reaches then guess else guess - 1

/-- The two multiples of `10 ^ place` around a fraction, the nearer one first. -/
def neighbours (numerator denominator : Nat) (place : Int) : List Nat :=
  let (top, bottom) : Nat × Nat :=
    if 0 ≤ place then (numerator, denominator * tenTo place.toNat)
    else (numerator * tenTo place.natAbs, denominator)
  let below := top / bottom
  if 2 * (top % bottom) ≤ bottom then [below, below + 1] else [below + 1, below]

/-- The first decimal of at most `more` further digits that reads back to `x`, by increasing
number of digits. -/
def searchShortest (x : Binary64) (numerator denominator : Nat) : Nat → Int → Option (Nat × Int)
  | 0, _ => none
  | more + 1, place =>
    match (neighbours numerator denominator place).find? fun d =>
      ofDecimal? x.negative d place == some x with
    | some d => some (d, place)
    | none => searchShortest x numerator denominator more (place - 1)

/-- The shortest decimal that reads back to `x`. -/
def shortest (x : Binary64) : Numeral :=
  if x.significand = 0 then ⟨x.negative, 0, 0, false⟩
  else
    let (numerator, denominator) : Nat × Nat :=
      if 0 ≤ x.scale then (x.significand * twoTo x.scale.toNat, 1)
      else (x.significand, twoTo x.scale.natAbs)
    match searchShortest x numerator denominator 17 (decimalPlace numerator denominator) with
    | some (coefficient, exponent) => ⟨x.negative, coefficient, exponent, false⟩
    | none => ⟨x.negative, numerator, 0, false⟩

end Binary64
end MapGate
