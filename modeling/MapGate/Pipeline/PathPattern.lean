import MapGate.Text.Blank

/-!
Path patterns. `?` stands for one character other than a slash, `*` for any run of such
characters, and `**`, which must be a whole segment, for any number of segments: `/a/**` also
matches `/a`, and `**/a` also matches `a`. A `**` never spans a line feed. Of two `**` that lead a
pattern the first one needs a slash.
-/
namespace MapGate

inductive PatternError where
  | empty
  | partialSegment
deriving DecidableEq, Repr

def PatternError.reason : PatternError → String
  | empty => "pattern is empty"
  | partialSegment => "'**' must be a whole path segment"

/-- The error text for a pattern, which is shown trimmed. -/
def PatternError.message (e : PatternError) (pattern : String) : String :=
  "invalid path pattern '" ++ pattern ++ "': " ++ e.reason

namespace PathPattern

inductive Atom where
  | char (c : Char)
  /-- One character other than a slash. -/
  | one
  /-- Any run of characters other than a slash. -/
  | run
  /-- Nothing, or a slash and anything on the line. -/
  | subtree
  /-- Nothing, or anything on the line that ends in a slash. -/
  | parents
  /-- Anything on the line that ends in a slash. -/
  | ancestor
  /-- Anything on the line. -/
  | anything
deriving DecidableEq, Repr

/-- Whether a `**` that is followed by `cs` ends its segment there. -/
def endsSegment : List Char → Bool
  | [] => true
  | c :: _ => c == '/'

/-- The atoms of a pattern after its start. -/
def laterAtoms : List Char → Except PatternError (List Atom)
  | [] => .ok []
  | '/' :: '*' :: '*' :: rest =>
    if endsSegment rest then (laterAtoms rest).map (.subtree :: ·) else .error .partialSegment
  | '*' :: '*' :: _ => .error .partialSegment
  | '*' :: rest => (laterAtoms rest).map (.run :: ·)
  | '?' :: rest => (laterAtoms rest).map (.one :: ·)
  | c :: rest => (laterAtoms rest).map (.char c :: ·)

def atomsOf : List Char → Except PatternError (List Atom)
  | ['*', '*'] => .ok [.anything]
  | '*' :: '*' :: '/' :: '*' :: '*' :: rest =>
    if endsSegment rest then (laterAtoms rest).map ([.ancestor, .subtree] ++ ·)
    else .error .partialSegment
  | '*' :: '*' :: '/' :: rest => (laterAtoms rest).map (.parents :: ·)
  | cs => laterAtoms cs

/-- Whether `k` accepts what is left after some characters other than a slash. -/
def afterRun (k : List Char → Bool) : List Char → Bool
  | [] => k []
  | c :: rest => k (c :: rest) || (c != '/' && afterRun k rest)

/-- Whether `k` accepts what is left after some characters on the line. -/
def afterAny (k : List Char → Bool) : List Char → Bool
  | [] => k []
  | c :: rest => k (c :: rest) || (c != '\n' && afterAny k rest)

/-- Whether `k` accepts what is left after a slash. -/
def afterSlash (k : List Char → Bool) : List Char → Bool
  | [] => false
  | c :: rest => c == '/' && k rest

def accepts : List Atom → List Char → Bool
  | [], cs => cs.isEmpty
  | .char a :: rest, cs =>
    match cs with
    | c :: tail => c == a && accepts rest tail
    | [] => false
  | .one :: rest, cs =>
    match cs with
    | c :: tail => c != '/' && accepts rest tail
    | [] => false
  | .run :: rest, cs => afterRun (accepts rest) cs
  | .subtree :: rest, cs => accepts rest cs || afterSlash (afterAny (accepts rest)) cs
  | .parents :: rest, cs => accepts rest cs || afterAny (afterSlash (accepts rest)) cs
  | .ancestor :: rest, cs => afterAny (afterSlash (accepts rest)) cs
  | .anything :: rest, cs => afterAny (accepts rest) cs

end PathPattern

structure PathPattern where
  /-- The pattern as written, trimmed. -/
  text : String
  atoms : List PathPattern.Atom
deriving DecidableEq, Repr

namespace PathPattern

def compileChars (cs : List Char) : Except PatternError (List Atom) :=
  if cs.isEmpty then .error .empty else atomsOf cs

def compile (pattern : String) : Except PatternError PathPattern :=
  let cs := Text.trim pattern.toList
  (compileChars cs).map fun atoms => ⟨String.ofList cs, atoms⟩

def compileList (patterns : String) : List (Except PatternError PathPattern) :=
  (MapGate.commaItems patterns).map compile

def isMatch (p : PathPattern) (path : String) : Bool := accepts p.atoms path.toList

end PathPattern
end MapGate
