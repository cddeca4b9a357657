/-!
Blank characters, trimming and splitting of text. A character is blank when it has the Unicode
property White_Space. Texts are handled as lists of characters; the string forms wrap them.
-/
namespace MapGate.Text

/-- The characters with the Unicode property White_Space. -/
def isBlank (c : Char) : Bool :=
  let n := c.toNat
  (0x09 ≤ n && n ≤ 0x0D) || n == 0x20 || n == 0x85 || n == 0xA0 || n == 0x1680 ||
    (0x2000 ≤ n && n ≤ 0x200A) || n == 0x2028 || n == 0x2029 || n == 0x202F || n == 0x205F ||
    n == 0x3000

def trimStart (cs : List Char) : List Char := cs.dropWhile isBlank

def trimEnd (cs : List Char) : List Char := (cs.reverse.dropWhile isBlank).reverse

def trim (cs : List Char) : List Char := trimEnd (trimStart cs)

/-- Cuts at every `separator`; there is always one more piece than separators. -/
def split (separator : Char) : List Char → List (List Char)
  | [] => [[]]
  | c :: rest =>
    if c = separator then [] :: split separator rest
    else match split separator rest with
      | [] => [[c]]
      | piece :: pieces => (c :: piece) :: pieces

/-- The trimmed pieces between commas, without the blank ones. -/
def commaItems (cs : List Char) : List (List Char) :=
  ((split ',' cs).map trim).filter (fun piece => !piece.isEmpty)

theorem split_ne_nil (separator : Char) (cs : List Char) : split separator cs ≠ [] := by
  cases cs with
  | nil => simp [split]
  | cons c rest =>
    by_cases h : c = separator
    · simp [split, h]
    · simp only [split, h, if_false]
      split <;> simp

end MapGate.Text

namespace MapGate

def trimmed (s : String) : String := String.ofList (Text.trim s.toList)

def blank (s : String) : Bool := (Text.trim s.toList).isEmpty

/-- The trimmed, non-blank items of a comma separated list. -/
def commaItems (s : String) : List String := (Text.commaItems s.toList).map String.ofList

end MapGate
