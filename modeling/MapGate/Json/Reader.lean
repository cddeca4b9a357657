import MapGate.Json.Basic

/-!
Reading JSON text. The grammar is the standard's: blanks are space, tab, line feed and carriage
return, numbers have no leading zeros, and control characters never stand inside a string. Reading
takes fuel, one unit for each nested or following value; the length of the text is always enough.
-/
namespace MapGate.Json

def isGap (c : Char) : Bool := c == ' ' || c == '\n' || c == '\t' || c == '\r'

def skipGap (cs : List Char) : List Char := cs.dropWhile isGap

def quad? (a b c d : Char) : Option Nat := Text.numberFrom? 16 0 [a, b, c, d]

def simpleEscape? : Char → Option Char
  | '"' => some '"'
  | '\\' => some '\\'
  | '/' => some '/'
  | 'b' => some '\x08'
  | 'f' => some '\x0c'
  | 'n' => some '\n'
  | 'r' => some '\r'
  | 't' => some '\t'
  | _ => none

/-- The code points and 16-bit escapes of a string after its opening quote, and what follows its
closing quote. -/
def readUnits : List Char → Option (List Nat × List Char)
  | [] => none
  | '"' :: rest => some ([], rest)
  | '\\' :: 'u' :: a :: b :: c :: d :: rest =>
    match quad? a b c d, readUnits rest with
    | some unit, some (units, after) => some (unit :: units, after)
    | _, _ => none
  | '\\' :: e :: rest =>
    match simpleEscape? e, readUnits rest with
    | some c, some (units, after) => some (c.toNat :: units, after)
    | _, _ => none
  | c :: rest =>
    if c.toNat < 0x20 then none
    else match readUnits rest with
      | some (units, after) => some (c.toNat :: units, after)
      | none => none

def isHighSurrogate (n : Nat) : Bool := 0xD800 ≤ n && n < 0xDC00

def isLowSurrogate (n : Nat) : Bool := 0xDC00 ≤ n && n < 0xE000

/-- Joins surrogate pairs; `none` when a surrogate stands alone. -/
def joinUnits : List Nat → Option (List Char)
  | [] => some []
  | high :: low :: rest =>
    if isHighSurrogate high then
      if isLowSurrogate low then
        (joinUnits rest).map
          (Char.ofNat (0x10000 + (high - 0xD800) * 0x400 + (low - 0xDC00)) :: ·)
      else none
    else if isLowSurrogate high then none
    else (joinUnits (low :: rest)).map (Char.ofNat high :: ·)
  | [unit] =>
    if isHighSurrogate unit || isLowSurrogate unit then none else some [Char.ofNat unit]

def readString (cs : List Char) : Option (Option String × List Char) :=
  match readUnits cs with
  | some (units, after) => some ((joinUnits units).map String.ofList, after)
  | none => none

/-- The digits of a number without sign: its coefficient, exponent and form. -/
def readMagnitude (cs : List Char) : Option (Nat × Int × Bool × List Char) :=
  let (whole, rest) := Text.spanDigits 10 cs
  if whole.isEmpty || (whole.head? == some '0' && whole.length ≠ 1) then none
  else
    let (fraction, rest, pointed) : List Char × List Char × Bool :=
      match rest with
      | '.' :: after =>
        let (digits, after) := Text.spanDigits 10 after
        (digits, after, true)
      | _ => ([], rest, false)
    if pointed && fraction.isEmpty then none
    else match Text.numberFrom? 10 0 (whole ++ fraction) with
      | none => none
      | some coefficient =>
        let shift : Int := -(fraction.length : Int)
        match rest with
        | e :: after =>
          if e == 'e' || e == 'E' then
            let (negative, after) : Bool × List Char :=
              match after with
              | '-' :: tail => (true, tail)
              | '+' :: tail => (false, tail)
              | _ => (false, after)
            let (digits, after) := Text.spanDigits 10 after
            match Text.number? 10 digits with
            | none => none
            | some power =>
              some (coefficient, shift + (if negative then -(power : Int) else power), false, after)
          else some (coefficient, shift, !pointed, rest)
        | [] => some (coefficient, shift, !pointed, rest)

def readNumber (cs : List Char) : Option (Json × List Char) :=
  let (negative, body) : Bool × List Char :=
    match cs with
    | '-' :: tail => (true, tail)
    | _ => (false, cs)
  match readMagnitude body with
  | some (coefficient, exponent, integral, after) =>
    some (number ⟨negative, coefficient, exponent, integral⟩, after)
  | none => none

mutual

def readValue : Nat → List Char → Option (Json × List Char)
  | 0, _ => none
  | fuel + 1, cs =>
    match skipGap cs with
    | 'n' :: 'u' :: 'l' :: 'l' :: rest => some (null, rest)
    | 't' :: 'r' :: 'u' :: 'e' :: rest => some (bool true, rest)
    | 'f' :: 'a' :: 'l' :: 's' :: 'e' :: rest => some (bool false, rest)
    | '"' :: rest =>
      match readString rest with
      | some (text, after) => some (string text, after)
      | none => none
    | '[' :: rest =>
      match skipGap rest with
      | ']' :: after => some (array [], after)
      | _ =>
        match readItems fuel rest with
        | some (items, after) => some (array items, after)
        | none => none
    | '{' :: rest =>
      match skipGap rest with
      | '}' :: after => some (object [], after)
      | _ =>
        match readMembers fuel rest with
        | some (members, after) => some (object members, after)
        | none => none
    | other => readNumber other

/-- The items of an array that has some, with its closing bracket. -/
def readItems : Nat → List Char → Option (List Json × List Char)
  | 0, _ => none
  | fuel + 1, cs =>
    match readValue fuel cs with
    | none => none
    | some (item, rest) =>
      match skipGap rest with
      | ']' :: after => some ([item], after)
      | ',' :: after =>
        match readItems fuel after with
        | some (items, after) => some (item :: items, after)
        | none => none
      | _ => none

/-- The members of an object that has some, with its closing brace. -/
def readMembers : Nat → List Char → Option (List (Option String × Json) × List Char)
  | 0, _ => none
  | fuel + 1, cs =>
    match skipGap cs with
    | '"' :: rest =>
      match readString rest with
      | none => none
      | some (key, rest) =>
        match skipGap rest with
        | ':' :: rest =>
          match readValue fuel rest with
          | none => none
          | some (value, rest) =>
            match skipGap rest with
            | '}' :: after => some ([(key, value)], after)
            | ',' :: after =>
              match readMembers fuel after with
              | some (members, after) => some ((key, value) :: members, after)
              | none => none
            | _ => none
        | _ => none
    | _ => none

end

/-- The document a text spells, with nothing but a gap after it. -/
def parse? (text : String) : Option Json :=
  let cs := text.toList
  match readValue (cs.length + 1) cs with
  | some (value, rest) => if (skipGap rest).isEmpty then some value else none
  | none => none

end MapGate.Json
