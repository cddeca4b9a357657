import MapGate.Text.Printable
import MapGate.Text.Digit

/-!
Words and quoted texts in the descriptions of values. In quotes a quote and a backslash get a
backslash, the usual controls their letter, and every other character that does not print its code
point in hexadecimal.
-/
namespace MapGate.Text

def ofBool (b : Bool) : String := if b then "true" else "false"

def quotedChar (c : Char) : List Char :=
  match c with
  | '"' => ['\\', '"']
  | '\\' => ['\\', '\\']
  | '\n' => ['\\', 'n']
  | '\r' => ['\\', 'r']
  | '\t' => ['\\', 't']
  | '\x00' => ['\\', '0']
  | _ =>
    if isPrintable c then [c]
    else ['\\', 'u', '\x7b'] ++ Nat.toDigits 16 c.toNat ++ ['\x7d']

def quoted (s : String) : String :=
  "\"" ++ String.ofList (s.toList.flatMap quotedChar) ++ "\""

end MapGate.Text
