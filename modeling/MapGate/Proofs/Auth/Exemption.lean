import MapGate.Auth.Whitelist
import MapGate.Proofs.Auth.AddressText
import MapGate.Proofs.List.Traverse

/-!
Which addresses a whitelist exempts. Its entries are read one by one, up to the first that is
neither blank nor the text of an address or a network. An address is exempt if some entry is the
text of that address or of a network whose leading bits it has, IPv4-mapped addresses standing for
the IPv4 address inside them.
-/
namespace MapGate

namespace Address

/-- An IPv4-mapped address stands for the IPv4 address inside it, any other for itself. -/
inductive StandsFor : Address → Address → Prop where
  | mapped (inner : BitVec 32) : StandsFor (.v6 (0xFFFF#96 ++ inner)) (.v4 inner)
  | other {a : Address} (unmapped : ∀ inner : BitVec 32, a ≠ .v6 (0xFFFF#96 ++ inner)) :
      StandsFor a a

theorem mapped?_eq_some_iff {bits : BitVec 128} {inner : BitVec 32} :
    mapped? bits = some inner ↔ bits = 0xFFFF#96 ++ inner := by
  have value : (0xFFFF#96 ++ inner).toNat = 0xFFFF * 2 ^ 32 + inner.toNat := toNat_append _ inner
  have high : bits >>> 32 = 0xFFFF#128 ↔ bits.toNat / 2 ^ 32 = 0xFFFF := by
    rw [← BitVec.toNat_inj, BitVec.toNat_ushiftRight, Nat.shiftRight_eq_div_pow]
    rfl
  have small := inner.isLt
  rw [← BitVec.toNat_inj, value]
  unfold mapped?
  split
  case isTrue front =>
    have front := high.mp front
    rw [Option.some.injEq, ← BitVec.toNat_inj, BitVec.toNat_setWidth]
    omega
  case isFalse front =>
    have front := mt high.mpr front
    refine iff_of_false nofun ?_
    omega

theorem canonical_mapped (inner : BitVec 32) :
    canonical (.v6 (0xFFFF#96 ++ inner)) = .v4 inner := by
  rw [canonical, mapped?_eq_some_iff.mpr rfl]

theorem standsFor_canonical (a : Address) : a.StandsFor a.canonical := by
  cases a with
  | v4 bits => exact .other nofun
  | v6 bits =>
    rw [canonical]
    cases found : mapped? bits with
    | some inner =>
      obtain rfl := mapped?_eq_some_iff.mp found
      exact .mapped inner
    | none =>
      refine .other fun inner same => ?_
      exact nomatch found.symm.trans (mapped?_eq_some_iff.mpr (Address.v6.inj same))

theorem StandsFor.canonical_eq {a c : Address} (stands : a.StandsFor c) : a.canonical = c := by
  cases stands with
  | mapped inner => exact canonical_mapped inner
  | other unmapped =>
    cases a with
    | v4 bits => rfl
    | v6 bits =>
      rw [canonical]
      split
      case h_1 inner found =>
        exact absurd (congrArg v6 (mapped?_eq_some_iff.mp found)) (unmapped inner)
      case h_2 => rfl

theorem standsFor_iff {a c : Address} : a.StandsFor c ↔ a.canonical = c :=
  ⟨StandsFor.canonical_eq, fun same => same ▸ standsFor_canonical a⟩

end Address

namespace Network

/-- An address of the network's family has the network's leading bits. -/
def Covers : Network → Address → Prop
  | .v4 bits length, .v4 a => ∀ i < length, bits.getMsbD i = a.getMsbD i
  | .v6 bits length, .v6 a => ∀ i < length, bits.getMsbD i = a.getMsbD i
  | _, _ => False

theorem samePrefix_iff {width length : Nat} (a b : BitVec width) (fits : length ≤ width) :
    samePrefix a b length = true ↔ ∀ i < length, a.getMsbD i = b.getMsbD i := by
  unfold samePrefix
  rw [beq_iff_eq]
  constructor
  · intro same i inside
    have bit := congrArg (fun bits => bits.getMsbD (i + (width - length))) same
    have placed : i + (width - length) < width := by omega
    have behind : ¬ i + (width - length) < width - length := by omega
    simpa [BitVec.getMsbD_ushiftRight, placed, behind] using bit
  · intro same
    apply BitVec.eq_of_getMsbD_eq
    intro i inside
    rw [BitVec.getMsbD_ushiftRight, BitVec.getMsbD_ushiftRight]
    by_cases front : i < width - length
    · simp [front]
    · rw [same (i - (width - length)) (by omega)]

/-- Whatever bits a written network has behind its leading ones, only these count. -/
theorem contains_iff {cs : List Char} {n : Network} (text : NetworkText cs n) (a : Address) :
    n.contains a = true ↔ n.Covers a := by
  cases text with
  | v4 _ _ _ fits =>
    cases a with
    | v4 => exact samePrefix_iff _ _ fits
    | v6 => exact iff_of_false Bool.false_ne_true id
  | v6 _ _ _ fits =>
    cases a with
    | v4 => exact iff_of_false Bool.false_ne_true id
    | v6 => exact samePrefix_iff _ _ fits

end Network

namespace Whitelist

/-- The entry, trimmed, is the text of an address or of a network. -/
def Readable (entry : String) : Prop :=
  (∃ a, AddressText false (Text.trim entry.toList) a) ∨
    ∃ n, NetworkText (Text.trim entry.toList) n

/-- The entry, trimmed, is the text of the address itself, possibly in its IPv4-mapped form, or of a
network that covers it. -/
def Exempts (entry : String) (c : Address) : Prop :=
  (∃ a, AddressText false (Text.trim entry.toList) a ∧ a.StandsFor c) ∨
    ∃ n, NetworkText (Text.trim entry.toList) n ∧ n.Covers c

theorem not_networkText_of_addressText {padded : Bool} {cs : List Char} {a : Address} {n : Network}
    (text : AddressText padded cs a) : ¬ NetworkText cs n := by
  intro network
  apply text.slash_not_mem
  cases network <;> simp

variable {entry : String}

theorem ofEntry_address {a : Address} (text : AddressText false (Text.trim entry.toList) a) :
    AddressMatcher.ofEntry entry = .ok (.exact a.canonical) := by
  have read : Address.ofChars? (Text.trim entry.toList) = some a :=
    Address.read?_eq_some_iff.mpr text
  rw [AddressMatcher.ofEntry, read]

theorem ofEntry_network {n : Network} (text : NetworkText (Text.trim entry.toList) n) :
    AddressMatcher.ofEntry entry = .ok (.network n) := by
  have unread : Address.ofChars? (Text.trim entry.toList) = none := by
    refine Option.eq_none_iff_forall_ne_some.mpr fun a read => ?_
    exact not_networkText_of_addressText (Address.read?_eq_some_iff.mp read) text
  rw [AddressMatcher.ofEntry, unread, Network.ofChars?_eq_some_iff.mpr text]

theorem ofEntry_unreadable (unreadable : ¬ Readable entry) :
    AddressMatcher.ofEntry entry = .error ⟨trimmed entry⟩ := by
  obtain ⟨address, network⟩ := not_or.mp unreadable
  have first : Address.ofChars? (Text.trim entry.toList) = none :=
    Option.eq_none_iff_forall_ne_some.mpr fun a read =>
      address ⟨a, Address.read?_eq_some_iff.mp read⟩
  have second : Network.ofChars? (Text.trim entry.toList) = none :=
    Option.eq_none_iff_forall_ne_some.mpr fun n read =>
      network ⟨n, Network.ofChars?_eq_some_iff.mp read⟩
  rw [AddressMatcher.ofEntry, first, second]
  rfl

theorem ofEntry_ok_iff : (∃ m, AddressMatcher.ofEntry entry = .ok m) ↔ Readable entry := by
  constructor
  · rintro ⟨m, read⟩
    by_contra unreadable
    exact nomatch read.symm.trans (ofEntry_unreadable unreadable)
  · rintro (⟨a, text⟩ | ⟨n, text⟩)
    · exact ⟨_, ofEntry_address text⟩
    · exact ⟨_, ofEntry_network text⟩

theorem ofEntry_error_iff {e : WhitelistError} :
    AddressMatcher.ofEntry entry = .error e ↔ ¬ Readable entry ∧ e = ⟨trimmed entry⟩ := by
  constructor
  · intro failed
    have unreadable : ¬ Readable entry := by
      intro readable
      obtain ⟨m, read⟩ := ofEntry_ok_iff.mpr readable
      exact nomatch failed.symm.trans read
    exact ⟨unreadable, Except.error.inj (failed.symm.trans (ofEntry_unreadable unreadable))⟩
  · rintro ⟨unreadable, rfl⟩
    exact ofEntry_unreadable unreadable

theorem accepts_iff {m : AddressMatcher} (read : AddressMatcher.ofEntry entry = .ok m)
    (c : Address) : m.accepts c = true ↔ Exempts entry c := by
  constructor
  · intro accepted
    obtain ⟨a, text⟩ | ⟨n, text⟩ := ofEntry_ok_iff.mp ⟨m, read⟩
    · obtain rfl := Except.ok.inj (read.symm.trans (ofEntry_address text))
      exact .inl ⟨a, text, Address.standsFor_iff.mpr (beq_iff_eq.mp accepted)⟩
    · obtain rfl := Except.ok.inj (read.symm.trans (ofEntry_network text))
      exact .inr ⟨n, text, (Network.contains_iff text c).mp accepted⟩
  · rintro (⟨a, text, stands⟩ | ⟨n, text, covered⟩)
    · obtain rfl := Except.ok.inj (read.symm.trans (ofEntry_address text))
      exact beq_iff_eq.mpr stands.canonical_eq
    · obtain rfl := Except.ok.inj (read.symm.trans (ofEntry_network text))
      exact (Network.contains_iff text c).mpr covered

theorem exempts_address_iff {a : Address} (text : AddressText false (Text.trim entry.toList) a)
    (c : Address) : Exempts entry c ↔ a.StandsFor c := by
  rw [← accepts_iff (ofEntry_address text), Address.standsFor_iff]
  exact beq_iff_eq

theorem exempts_network_iff {n : Network} (text : NetworkText (Text.trim entry.toList) n)
    (c : Address) : Exempts entry c ↔ n.Covers c := by
  rw [← accepts_iff (ofEntry_network text)]
  exact Network.contains_iff text c

theorem Exempts.readable {c : Address} (exempts : Exempts entry c) : Readable entry := by
  obtain ⟨a, text, _⟩ | ⟨n, text, _⟩ := exempts
  · exact .inl ⟨a, text⟩
  · exact .inr ⟨n, text⟩

theorem Readable.present (readable : Readable entry) : blank entry = false := by
  by_contra absent
  have empty : Text.trim entry.toList = [] := List.isEmpty_iff.mp (Bool.not_eq_false _ ▸ absent)
  rw [Readable, empty] at readable
  obtain ⟨a, text⟩ | ⟨n, text⟩ := readable
  · exact nomatch Address.read?_eq_some_iff.mpr text
  · exact nomatch Network.ofChars?_eq_some_iff.mpr text

variable {entries : List String} {w : Whitelist}

theorem parse_ok_iff : parse entries = .ok w ↔
    (entries.filter fun e => !blank e).map AddressMatcher.ofEntry = w.matchers.map .ok := by
  rw [← mapM_ok_iff, parse]
  cases (entries.filter fun e => !blank e).mapM AddressMatcher.ofEntry with
  | error e => exact iff_of_false nofun nofun
  | ok ms =>
    constructor
    · rintro ⟨⟩
      rfl
    · rintro ⟨⟩
      rfl

/-- The error is that of the first entry that is not blank and cannot be read. -/
theorem parse_error_iff {e : WhitelistError} : parse entries = .error e ↔
    ∃ before entry after, entries = before ++ entry :: after ∧
      (∀ earlier ∈ before, blank earlier = false → Readable earlier) ∧
      blank entry = false ∧ ¬ Readable entry ∧ e = ⟨trimmed entry⟩ := by
  have fails : parse entries = .error e ↔
      (entries.filter fun e => !blank e).mapM AddressMatcher.ofEntry = .error e := by
    rw [parse]
    cases (entries.filter fun e => !blank e).mapM AddressMatcher.ofEntry <;> simp [Except.map]
  rw [fails, mapM_error_iff]
  clear fails
  constructor
  · rintro ⟨before, entry, after, cut, passed, failed⟩
    obtain ⟨front, back, rfl, rfl, tail⟩ := List.filter_eq_append_iff.mp cut
    obtain ⟨skipped, rest, rfl, absent, present, rfl⟩ := List.filter_eq_cons_iff.mp tail
    obtain ⟨unreadable, rfl⟩ := ofEntry_error_iff.mp failed
    refine ⟨front ++ skipped, entry, rest, by simp, ?_, by simpa using present, unreadable, rfl⟩
    intro earlier member solid
    obtain early | late := List.mem_append.mp member
    · exact ofEntry_ok_iff.mp (passed earlier (List.mem_filter.mpr ⟨early, by simp [solid]⟩))
    · exact absurd solid (by simpa using absent earlier late)
  · rintro ⟨before, entry, after, rfl, passed, present, unreadable, rfl⟩
    refine ⟨before.filter fun e => !blank e, entry, after.filter fun e => !blank e, ?_, ?_, ?_⟩
    · rw [List.filter_append, List.filter_cons_of_pos (by simp [present])]
    · intro earlier member
      obtain ⟨listed, solid⟩ := List.mem_filter.mp member
      exact ofEntry_ok_iff.mpr (passed earlier listed (by simpa using solid))
    · exact ofEntry_unreadable unreadable

theorem parse_succeeds_iff : (∃ w, parse entries = .ok w) ↔
    ∀ entry ∈ entries, blank entry = false → Readable entry := by
  constructor
  · rintro ⟨w, read⟩ entry member present
    have kept : entry ∈ entries.filter fun e => !blank e :=
      List.mem_filter.mpr ⟨member, by simp [present]⟩
    have found := List.mem_map_of_mem (f := AddressMatcher.ofEntry) kept
    rw [parse_ok_iff.mp read] at found
    obtain ⟨m, _, same⟩ := List.mem_map.mp found
    exact ofEntry_ok_iff.mp ⟨m, same.symm⟩
  · intro readable
    cases result : parse entries with
    | ok w => exact ⟨w, rfl⟩
    | error e =>
      obtain ⟨before, entry, after, rfl, _, present, unreadable, _⟩ := parse_error_iff.mp result
      exact absurd (readable entry (by simp) present) unreadable

theorem contains_iff (read : parse entries = .ok w) (a : Address) :
    w.contains a = true ↔ ∃ entry ∈ entries, Exempts entry a.canonical := by
  have same := parse_ok_iff.mp read
  have listed (m : AddressMatcher) : m ∈ w.matchers ↔
      ∃ entry ∈ entries.filter fun e => !blank e, AddressMatcher.ofEntry entry = .ok m := by
    have kept : .ok m ∈ w.matchers.map (Except.ok (ε := WhitelistError)) ↔ m ∈ w.matchers := by simp
    rw [← kept, ← same, List.mem_map]
  rw [contains, List.any_eq_true]
  constructor
  · rintro ⟨m, member, accepted⟩
    obtain ⟨entry, kept, read⟩ := (listed m).mp member
    exact ⟨entry, (List.mem_filter.mp kept).1, (accepts_iff read _).mp accepted⟩
  · rintro ⟨entry, member, exempts⟩
    obtain ⟨m, read⟩ := ofEntry_ok_iff.mpr exempts.readable
    have kept : entry ∈ entries.filter fun e => !blank e :=
      List.mem_filter.mpr ⟨member, by simp [exempts.readable.present]⟩
    exact ⟨m, (listed m).mpr ⟨entry, kept, read⟩, (accepts_iff read _).mpr exempts⟩

-- the bits of an entry behind the leading ones do not count, nor how a looked-up address is written
example : (parse [" ", " 10.1.2.3/8 "]).toOption.map
    (fun w => (w.size, w.contains (.v6 (0xFFFF#96 ++ 0x0A090909#32)))) = some (1, true) := by
  decide +kernel

end Whitelist
end MapGate
