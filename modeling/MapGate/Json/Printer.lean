import MapGate.Json.Basic

/-!
Writing JSON text on one line, without gaps. A string that is no text is written as `null`.
-/
namespace MapGate.Json

def escapeChar (c : Char) : List Char :=
  if c = '"' then ['\\', '"']
  else if c = '\\' then ['\\', '\\']
  else if c.toNat < 0x20 then
    '\\' :: 'u' :: Text.padZeros 4 (Nat.toDigits 16 c.toNat)
  else [c]

def quoted (s : String) : String :=
  "\"" ++ String.ofList (s.toList.flatMap escapeChar) ++ "\""

mutual

def render : Json → String
  | null => "null"
  | bool value => if value then "true" else "false"
  | number value => value.render
  | string none => "null"
  | string (some s) => quoted s
  | array items => "[" ++ renderItems items ++ "]"
  | object members => "\x7b" ++ renderMembers members ++ "\x7d"

def renderItems : List Json → String
  | [] => ""
  | [item] => render item
  | item :: rest => render item ++ "," ++ renderItems rest

def renderMembers : List (Option String × Json) → String
  | [] => ""
  | [(key, value)] => quoted (key.getD "") ++ ":" ++ render value
  | (key, value) :: rest => quoted (key.getD "") ++ ":" ++ render value ++ "," ++ renderMembers rest

end

end MapGate.Json
