import MapGate.Toml.Scalar

/-!
Reading TOML documents. A document is a sequence of lines: blank ones, comments, headers and
definitions. Arrays may span lines, inline tables may not. Values nest, and keys are dotted, less
than eighty deep. Reading takes fuel, which the length of the text bounds.
-/
namespace MapGate.Toml

/-- Values and keys stay below this depth. -/
def depthLimit : Nat := 80

def skipSpaces (cs : List Char) : List Char := cs.dropWhile isSpace

/-- The rest after a comment, if there is one; the line end stays. -/
def skipComment? (cs : List Char) : Option (List Char) :=
  match cs with
  | '#' :: rest =>
    let after := rest.dropWhile isPlain
    match after with
    | [] => some []
    | '\n' :: _ => some after
    | '\r' :: '\n' :: _ => some after
    | _ => none
  | _ => some cs

/-- The rest after spaces, an optional comment and a line end or the end of the text. -/
def endLine? (cs : List Char) : Option (List Char) :=
  match skipComment? (skipSpaces cs) with
  | some [] => some []
  | some ('\n' :: rest) => some rest
  | some ('\r' :: '\n' :: rest) => some rest
  | _ => none

def skipLines : Nat → List Char → Option (List Char)
  | 0, _ => none
  | fuel + 1, cs =>
    match skipSpaces cs with
    | [] => some []
    | '\n' :: rest => skipLines fuel rest
    | '\r' :: '\n' :: rest => skipLines fuel rest
    | '#' :: rest =>
      match skipComment? ('#' :: rest) with
      | some after => skipLines fuel after
      | none => none
    | other => some other

def isBareKey (c : Char) : Bool := c.isAlphanum || c == '-' || c == '_'

def readSimpleKey : List Char → Option (String × List Char)
  | '"' :: rest => (readBasic rest).map fun (text, after) => (String.ofList text, after)
  | '\'' :: rest => (readLiteral rest).map fun (text, after) => (String.ofList text, after)
  | cs =>
    let key := cs.takeWhile isBareKey
    if key.isEmpty then none else some (String.ofList key, cs.dropWhile isBareKey)

/-- A key of parts between points, with spaces around each part. -/
def readKey : Nat → List Char → Option (List String × List Char)
  | 0, _ => none
  | fuel + 1, cs =>
    match readSimpleKey (skipSpaces cs) with
    | none => none
    | some (part, rest) =>
      match skipSpaces rest with
      | '.' :: after =>
        match readKey fuel after with
        | some (parts, after) => some (part :: parts, after)
        | none => none
      | other => some ([part], other)

/-- A key that is not too long. -/
def readDottedKey (cs : List Char) : Option (List String × List Char) := readKey (depthLimit - 1) cs

mutual

def readValue : Nat → Nat → List Char → Option (Value × List Char)
  | 0, _, _ => none
  | fuel + 1, depth, cs =>
    match cs with
    | '"' :: _ => (readString cs).map fun (text, rest) => (.string (String.ofList text), rest)
    | '\'' :: _ => (readString cs).map fun (text, rest) => (.string (String.ofList text), rest)
    | '[' :: rest =>
      if depthLimit ≤ depth + 1 then none
      else match readItems fuel (depth + 1) rest with
        | some (items, after) => some (.array items, after)
        | none => none
    | '\x7b' :: rest =>
      if depthLimit ≤ depth + 1 then none
      else
        match skipSpaces rest with
        | '\x7d' :: after => some (.table [], after)
        | _ =>
          match readPairs fuel (depth + 1) rest [] with
          | some (members, after) => some (.table (membersToValues members), after)
          | none => none
    | _ => readWord cs

/-- The items of an array and its closing bracket. -/
def readItems : Nat → Nat → List Char → Option (List Value × List Char)
  | 0, _, _ => none
  | fuel + 1, depth, cs =>
    match skipLines (cs.length + 1) cs with
    | some (']' :: after) => some ([], after)
    | some start =>
      match readValue fuel depth start with
      | none => none
      | some (item, rest) =>
        match skipLines (rest.length + 1) rest with
        | some (']' :: after) => some ([item], after)
        | some (',' :: after) =>
          match readItems fuel depth after with
          | some (items, after) => some (item :: items, after)
          | none => none
        | _ => none
    | none => none

/-- The pairs of an inline table that has some, added to `members`, and its closing brace. -/
def readPairs : Nat → Nat → List Char → Members → Option (Members × List Char)
  | 0, _, _, _ => none
  | fuel + 1, depth, cs, members =>
    match readDottedKey cs with
    | some (key, '=' :: rest) =>
      match readValue fuel depth (skipSpaces rest) with
      | none => none
      | some (value, rest) =>
        match members.define value key with
        | none => none
        | some members =>
          match skipSpaces rest with
          | '\x7d' :: after => some (members, after)
          | ',' :: after => readPairs fuel depth after members
          | _ => none
    | _ => none

end

/-- The lines of a document from a line start on. `path` is the table that definitions go to. -/
def readLines : Nat → List String → Members → List Char → Option Members
  | 0, _, _, _ => none
  | fuel + 1, path, root, cs =>
    match skipLines (cs.length + 1) cs with
    | none => none
    | some [] => some root
    | some ('[' :: '[' :: rest) =>
      match readDottedKey rest with
      | some (key, ']' :: ']' :: rest) =>
        match root.changeAt (Members.openElement (key.getLast?.getD "")) key.dropLast, endLine? rest with
        | some root, some rest => readLines fuel key root rest
        | _, _ => none
      | _ => none
    | some ('[' :: rest) =>
      match readDottedKey rest with
      | some (key, ']' :: rest) =>
        match root.changeAt (Members.openTable (key.getLast?.getD "")) key.dropLast, endLine? rest with
        | some root, some rest => readLines fuel key root rest
        | _, _ => none
      | _ => none
    | some line =>
      match readDottedKey line with
      | some (key, '=' :: rest) =>
        match readValue (rest.length + 1) 0 (skipSpaces rest) with
        | none => none
        | some (value, rest) =>
          match root.changeAt (Members.define value key) path, endLine? rest with
          | some root, some rest => readLines fuel path root rest
          | _, _ => none
      | _ => none

/-- The table a document describes. A byte order mark at the start is skipped. -/
def parse? (text : String) : Option Value :=
  let cs :=
    match text.toList with
    | '\uFEFF' :: rest => rest
    | cs => cs
  (readLines (cs.length + 1) [] [] cs).map fun root => .table (membersToValues root)

end MapGate.Toml
