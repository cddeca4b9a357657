import MapGate.Auth.Address

/-!
Source addresses exempt from delays. IPv4-mapped addresses, in entries and look-ups alike, are
compared in their IPv4 form. Blank entries are skipped, and the first entry that is neither an
address nor a network refuses the whole list.
-/
namespace MapGate

inductive AddressMatcher where
  | exact (address : Address)
  | network (network : Network)
deriving DecidableEq, Repr

/-- An entry, trimmed, that is neither an address nor a network. -/
structure WhitelistError where
  entry : String
deriving DecidableEq, Repr

def WhitelistError.message (e : WhitelistError) : String :=
  "invalid whitelist entry '" ++ e.entry ++ "': expected an IP address or CIDR network"

namespace AddressMatcher

def ofEntry (entry : String) : Except WhitelistError AddressMatcher :=
  let cs := Text.trim entry.toList
  match Address.ofChars? cs with
  | some a => .ok (exact a.canonical)
  | none =>
    match Network.ofChars? cs with
    | some n => .ok (network n)
    | none => .error ⟨String.ofList cs⟩

def accepts : AddressMatcher → Address → Bool
  | exact a, b => a == b
  | network n, b => n.contains b

def describe : AddressMatcher → String
  | exact a => "Exact(" ++ a.text ++ ")"
  | network n => "Network(" ++ n.text ++ ")"

end AddressMatcher

structure Whitelist where
  matchers : List AddressMatcher
deriving DecidableEq, Repr

namespace Whitelist

def parse (entries : List String) : Except WhitelistError Whitelist :=
  ((entries.filter fun e => !blank e).mapM AddressMatcher.ofEntry).map Whitelist.mk

def contains (w : Whitelist) (a : Address) : Bool :=
  w.matchers.any fun m => m.accepts a.canonical

def size (w : Whitelist) : Nat := w.matchers.length

def isEmpty (w : Whitelist) : Bool := w.matchers.isEmpty

def describe (w : Whitelist) : String :=
  "AddressWhitelist \x7b matchers: [" ++
    String.intercalate ", " (w.matchers.map AddressMatcher.describe) ++ "] \x7d"

end Whitelist
end MapGate
