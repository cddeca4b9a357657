import MapGate.Number.Binary64
import MapGate.Text.Blank
import MapGate.Toml.Value

/-!
TOML strings, numbers, booleans and times. Readers take the text after what announced the scalar
and give the text after it; a bare scalar is read as one word and then classified.
-/
namespace MapGate.Toml

/-- Characters that may stand in a comment or, as far as they need no escape, in a string. -/
def isPlain (c : Char) : Bool := c == '\t' || (0x20 ≤ c.toNat && c.toNat != 0x7F)

def isSpace (c : Char) : Bool := c == ' ' || c == '\t'

/-- The character with a code point, unless it is a surrogate or too large. -/
def scalar? (n : Nat) : Option Char :=
  if n < 0xD800 ∨ (0xE000 ≤ n ∧ n < 0x110000) then some (Char.ofNat n) else none

def simpleEscape? : Char → Option Char
  | 'b' => some '\x08'
  | 't' => some '\t'
  | 'n' => some '\n'
  | 'f' => some '\x0c'
  | 'r' => some '\r'
  | '"' => some '"'
  | '\\' => some '\\'
  | _ => none

def hexScalar? (digits : List Char) : Option Char :=
  match Text.number? 16 digits with
  | some n => scalar? n
  | none => none

def consChar (c : Option Char) (read : Option (List Char × List Char)) :
    Option (List Char × List Char) :=
  match c, read with
  | some c, some (text, rest) => some (c :: text, rest)
  | _, _ => none

/-- A one-line string with escapes, after its quote. -/
def readBasic : List Char → Option (List Char × List Char)
  | [] => none
  | '"' :: rest => some ([], rest)
  | '\\' :: 'u' :: a :: b :: c :: d :: rest => consChar (hexScalar? [a, b, c, d]) (readBasic rest)
  | '\\' :: 'U' :: a :: b :: c :: d :: e :: f :: g :: h :: rest =>
    consChar (hexScalar? [a, b, c, d, e, f, g, h]) (readBasic rest)
  | '\\' :: e :: rest => consChar (simpleEscape? e) (readBasic rest)
  | c :: rest => if isPlain c then consChar (some c) (readBasic rest) else none

/-- A one-line string without escapes, after its quote. -/
def readLiteral : List Char → Option (List Char × List Char)
  | [] => none
  | '\'' :: rest => some ([], rest)
  | c :: rest => if isPlain c then consChar (some c) (readLiteral rest) else none

/-- Whether spaces and then a line end come first. -/
def lineEndsFirst (cs : List Char) : Bool :=
  match cs.dropWhile isSpace with
  | '\n' :: _ => true
  | '\r' :: '\n' :: _ => true
  | _ => false

/-- A string of many lines with escapes, after its quotes. A backslash before a line end drops all
blanks that follow, which `skipping` says is under way. Up to two quotes may stand before the
closing ones. -/
def readBasicLines : Bool → List Char → Option (List Char × List Char)
  | _, [] => none
  | _, '"' :: '"' :: '"' :: '"' :: '"' :: rest => some (['"', '"'], rest)
  | _, '"' :: '"' :: '"' :: '"' :: rest => some (['"'], rest)
  | _, '"' :: '"' :: '"' :: rest => some ([], rest)
  | _, '\\' :: 'u' :: a :: b :: c :: d :: rest =>
    consChar (hexScalar? [a, b, c, d]) (readBasicLines false rest)
  | _, '\\' :: 'U' :: a :: b :: c :: d :: e :: f :: g :: h :: rest =>
    consChar (hexScalar? [a, b, c, d, e, f, g, h]) (readBasicLines false rest)
  | _, '\\' :: e :: rest =>
    if lineEndsFirst (e :: rest) then readBasicLines true (e :: rest)
    else consChar (simpleEscape? e) (readBasicLines false rest)
  | skipping, '\r' :: '\n' :: rest =>
    if skipping then readBasicLines true rest
    else consChar (some '\n') (readBasicLines false rest)
  | skipping, '\n' :: rest =>
    if skipping then readBasicLines true rest
    else consChar (some '\n') (readBasicLines false rest)
  | skipping, c :: rest =>
    if skipping && isSpace c then readBasicLines true rest
    else if isPlain c then consChar (some c) (readBasicLines false rest)
    else none

/-- A string of many lines without escapes, after its quotes. -/
def readLiteralLines : List Char → Option (List Char × List Char)
  | [] => none
  | '\'' :: '\'' :: '\'' :: '\'' :: '\'' :: rest => some (['\'', '\''], rest)
  | '\'' :: '\'' :: '\'' :: '\'' :: rest => some (['\''], rest)
  | '\'' :: '\'' :: '\'' :: rest => some ([], rest)
  | '\r' :: '\n' :: rest => consChar (some '\n') (readLiteralLines rest)
  | '\n' :: rest => consChar (some '\n') (readLiteralLines rest)
  | c :: rest => if isPlain c then consChar (some c) (readLiteralLines rest) else none

/-- Drops the line end right after the opening quotes of a string of many lines. -/
def dropFirstLineEnd : List Char → List Char
  | '\n' :: rest => rest
  | '\r' :: '\n' :: rest => rest
  | cs => cs

def readString : List Char → Option (List Char × List Char)
  | '"' :: '"' :: '"' :: rest => readBasicLines false (dropFirstLineEnd rest)
  | '"' :: rest => readBasic rest
  | '\'' :: '\'' :: '\'' :: rest => readLiteralLines (dropFirstLineEnd rest)
  | '\'' :: rest => readLiteral rest
  | _ => none

/-- Digits of a base without the underscores between them. -/
def plainDigits? (base : Nat) : List Char → Option (List Char)
  | [] => none
  | [c] => if (Text.digitValue? base c).isSome then some [c] else none
  | c :: '_' :: rest =>
    if (Text.digitValue? base c).isSome then (plainDigits? base rest).map (c :: ·) else none
  | c :: rest =>
    if (Text.digitValue? base c).isSome then (plainDigits? base rest).map (c :: ·) else none

def splitSign : List Char → Bool × List Char
  | '-' :: rest => (true, rest)
  | '+' :: rest => (false, rest)
  | cs => (false, cs)

/-- A decimal whole number without leading zeros. -/
def wholeDigits? (cs : List Char) : Option (List Char) :=
  match plainDigits? 10 cs with
  | some ['0'] => some ['0']
  | some ('0' :: _) => none
  | other => other

def inWord (i : Int) : Option Int :=
  if Int64.minValue.toInt ≤ i ∧ i ≤ Int64.maxValue.toInt then some i else none

def integerIn? (base : Nat) (cs : List Char) : Option Int :=
  match plainDigits? base cs with
  | some digits =>
    match Text.number? base digits with
    | some n => inWord n
    | none => none
  | none => none

/-- A whole number: decimal with an optional sign, or in base 16, 8 or 2 after its mark. -/
def integer? : List Char → Option Int
  | '0' :: 'x' :: rest => integerIn? 16 rest
  | '0' :: 'o' :: rest => integerIn? 8 rest
  | '0' :: 'b' :: rest => integerIn? 2 rest
  | cs =>
    let (negative, digits) := splitSign cs
    match wholeDigits? digits with
    | some digits =>
      match Text.number? 10 digits with
      | some n => inWord (if negative then -(n : Int) else n)
      | none => none
    | none => none

/-- The exponent of a number, which is absent in the empty text. -/
def exponent? : List Char → Option Int
  | [] => some 0
  | c :: rest =>
    if c == 'e' || c == 'E' then
      let (negative, digits) := splitSign rest
      match plainDigits? 10 digits with
      | some digits =>
        match Text.number? 10 digits with
        | some n => some (if negative then -(n : Int) else n)
        | none => none
      | none => none
    else none

/-- Whether a word is a number with a fraction or an exponent that is not positively too large, or
a special one. -/
def isFloat (cs : List Char) : Bool :=
  let (negative, magnitude) := splitSign cs
  if magnitude == ['i', 'n', 'f'] || magnitude == ['n', 'a', 'n'] then true
  else
    let isExponent (c : Char) : Bool := c == 'e' || c == 'E'
    let mantissa := magnitude.takeWhile fun c => !isExponent c
    let power := magnitude.dropWhile fun c => !isExponent c
    let whole := mantissa.takeWhile (· != '.')
    let fraction := mantissa.dropWhile (· != '.')
    let digits? : Option (List Char) :=
      match fraction with
      | [] => if power.isEmpty then none else some []
      | _ :: places => plainDigits? 10 places
    match wholeDigits? whole, digits?, exponent? power with
    | some whole, some places, some exponent =>
      match Text.number? 10 (whole ++ places) with
      | some coefficient =>
        negative || (Binary64.ofDecimal? false coefficient (exponent - places.length)).isSome
      | none => false
    | _, _, _ => false

def fixedDigits? (width : Nat) (cs : List Char) : Option Nat :=
  if cs.length = width then Text.number? 10 cs else none

def daysIn (year month : Nat) : Nat :=
  if month = 2 then
    if year % 4 = 0 ∧ (year % 100 ≠ 0 ∨ year % 400 = 0) then 29 else 28
  else if month = 4 ∨ month = 6 ∨ month = 9 ∨ month = 11 then 30 else 31

/-- A day of the calendar as year, month and day. -/
def isDate (cs : List Char) : Bool :=
  match Text.split '-' cs with
  | [y, m, d] =>
    match fixedDigits? 4 y, fixedDigits? 2 m, fixedDigits? 2 d with
    | some year, some month, some day =>
      1 ≤ month && month ≤ 12 && 1 ≤ day && day ≤ daysIn year month
    | _, _, _ => false
  | _ => false

def isClock (hour minute : List Char) : Bool :=
  match fixedDigits? 2 hour, fixedDigits? 2 minute with
  | some h, some m => h < 24 && m < 60
  | _, _ => false

/-- A time of the day with seconds, possibly a leap second, and places after the point. -/
def isTime (cs : List Char) : Bool :=
  match Text.split ':' cs with
  | [h, m, s] =>
    let whole := s.takeWhile (· != '.')
    let places := s.dropWhile (· != '.')
    isClock h m &&
      (match fixedDigits? 2 whole with
      | some seconds => seconds ≤ 60
      | none => false) &&
      (places.isEmpty || (Text.number? 10 (places.drop 1)).isSome)
  | _ => false

/-- A time of the day, with or without an offset. -/
def isTimeWithOffset (cs : List Char) : Bool :=
  let inTime (c : Char) : Bool := c.isDigit || c == ':' || c == '.'
  let time := cs.takeWhile inTime
  isTime time &&
    match cs.dropWhile inTime with
    | [] => true
    | ['Z'] => true
    | ['z'] => true
    | sign :: offset =>
      (sign == '+' || sign == '-') &&
        match Text.split ':' offset with
        | [h, m] => isClock h m
        | _ => false

/-- A date, a time, or both with `T` between them. -/
def isDatetime (cs : List Char) : Bool :=
  isTime cs || isDate cs ||
    (isDate (cs.take 10) &&
      match cs.drop 10 with
      | mark :: time => (mark == 'T' || mark == 't') && isTimeWithOffset time
      | [] => false)

def inWordChars (c : Char) : Bool :=
  c.isAlphanum || c == '_' || c == '+' || c == '-' || c == '.' || c == ':'

/-- A scalar without quotes. A time may follow its date after one space. -/
def readWord (cs : List Char) : Option (Value × List Char) :=
  let word := cs.takeWhile inWordChars
  let rest := cs.dropWhile inWordChars
  if word == "true".toList then some (.boolean true, rest)
  else if word == "false".toList then some (.boolean false, rest)
  else match integer? word with
    | some i => some (.integer i, rest)
    | none =>
      if isFloat word then some (.float (String.ofList word), rest)
      else if isDate word then
        match rest with
        | ' ' :: more =>
          let time := more.takeWhile inWordChars
          if isTimeWithOffset time then
            some (.datetime (String.ofList (word ++ ' ' :: time)), more.dropWhile inWordChars)
          else some (.datetime (String.ofList word), rest)
        | _ => some (.datetime (String.ofList word), rest)
      else if isDatetime word then some (.datetime (String.ofList word), rest)
      else none

end MapGate.Toml
