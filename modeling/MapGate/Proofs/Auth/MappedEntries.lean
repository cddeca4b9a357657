import MapGate.Proofs.Auth.Exemption
import MapGate.Proofs.Text.Trim

/-!
Whitelists with IPv4 addresses in their IPv4-mapped form. Writing addresses so, in entries or in
what is looked up, changes no answer. Writing a network so makes its entry one that exempts nothing:
its bits are those of an IPv6 network, and no address is compared with these in its mapped form.
-/
namespace MapGate

namespace Address

/-- Decimal bytes behind `::ffff:` are the text of the IPv4-mapped address. -/
theorem DottedText.mapped {padded : Bool} {cs : List Char} {bits : BitVec 32}
    (dotted : DottedText padded cs bits) :
    AddressText padded ("::ffff:".toList ++ cs) (.v6 (0xFFFF#96 ++ bits)) := by
  have front : GroupText ['f', 'f', 'f', 'f'] 65535 := group?_eq_some_iff.mp rfl
  have groups := GroupsText.next front (.dotted dotted)
  have text := EightText.gap .empty List.not_mem_nil (.groups groups) (by simp)
  refine .v6 text ?_
  rw [toNat_append]
  simp [Nat.ofDigits_cons]
  omega

theorem canonical_ne_mapped (a : Address) (inner : BitVec 32) :
    a.canonical ≠ .v6 (0xFFFF#96 ++ inner) := by
  intro same
  have stands := standsFor_canonical a
  rw [same] at stands
  cases stands with
  | other unmapped => exact unmapped inner rfl

end Address

theorem AddressText.solid {padded : Bool} {cs : List Char} {a : Address}
    (text : AddressText padded cs a) : ∀ c ∈ cs, Text.isBlank c = false := by
  intro c member
  by_contra blank
  rw [Bool.not_eq_false] at blank
  refine text.not_mem (Text.hexValue?_eq_none_of_blank blank) ?_ ?_ member
  · rintro rfl
    cases blank
  · rintro rfl
    cases blank

theorem NetworkText.solid {cs : List Char} {n : Network} (text : NetworkText cs n) :
    ∀ c ∈ cs, Text.isBlank c = false := by
  have parts {address length : List Char} {a : Address} {m : Nat}
      (start : AddressText true address a) (spells : Text.Spells 10 length m) :
      ∀ c ∈ address ++ '/' :: length, Text.isBlank c = false := by
    rw [List.forall_mem_append, List.forall_mem_cons]
    refine ⟨start.solid, rfl, fun c member => ?_⟩
    by_contra blank
    rw [Bool.not_eq_false] at blank
    exact spells.not_mem (Text.hexValue?_eq_none_of_blank blank) member
  cases text with
  | v4 start spells => exact parts start spells
  | v6 start spells => exact parts start spells

/-- An address whose leading bits are those of an IPv4-mapped address is one. -/
theorem Network.covers_mapped {bits : BitVec 32} {n : Nat} {c : Address}
    (covered : (Network.v6 (0xFFFF#96 ++ bits) (96 + n)).Covers c) :
    ∃ inner : BitVec 32, c = .v6 (0xFFFF#96 ++ inner) := by
  cases c with
  | v4 => exact covered.elim
  | v6 b =>
    have front : ∀ i < 96, (0xFFFF#96 ++ bits).getMsbD i = b.getMsbD i :=
      fun i inside => covered i (Nat.lt_add_right n inside)
    have same : (0xFFFF#96 ++ bits : BitVec 128) >>> 32 = b >>> 32 :=
      beq_iff_eq.mp ((samePrefix_iff (0xFFFF#96 ++ bits) b (by decide)).mpr front)
    have found : Address.mapped? b = some (b.setWidth 32) := by
      have known := Address.mapped?_eq_some_iff.mpr (rfl : 0xFFFF#96 ++ bits = _)
      unfold Address.mapped? at known ⊢
      split at known
      case isTrue high => exact if_pos (same.symm.trans high)
      case isFalse => cases known
    exact ⟨b.setWidth 32, congrArg Address.v6 (Address.mapped?_eq_some_iff.mp found)⟩

namespace Whitelist

/-- The second list is what is left of the first without the networks that the third has in the
IPv4-mapped form, in which some of the addresses may be too. -/
inductive Respelled : List String → List String → List String → Prop where
  | nil : Respelled [] [] []
  | same {entries kept others : List String} (entry : String)
      (rest : Respelled entries kept others) :
      Respelled (entry :: entries) (entry :: kept) (entry :: others)
  | address {entries kept others : List String} {entry : String} {bits : BitVec 32}
      (dotted : Address.DottedText false (Text.trim entry.toList) bits)
      (rest : Respelled entries kept others) :
      Respelled (entry :: entries) (entry :: kept) (("::ffff:" ++ trimmed entry) :: others)
  | network {entries kept others : List String} {entry address length : String} {bits : BitVec 32}
      {n : Nat} (text : trimmed entry = address ++ "/" ++ length)
      (dotted : Address.DottedText true address.toList bits)
      (spells : Text.Spells 10 length.toList n) (fits : n ≤ 32)
      (rest : Respelled entries kept others) :
      Respelled (entry :: entries) kept
        (("::ffff:" ++ address ++ "/" ++ toString (96 + n)) :: others)

theorem mapped_address_text {entry : String} {bits : BitVec 32}
    (dotted : Address.DottedText false (Text.trim entry.toList) bits) :
    AddressText false (Text.trim ("::ffff:" ++ trimmed entry).toList)
      (.v6 (0xFFFF#96 ++ bits)) := by
  have text := dotted.mapped
  have spelled : ("::ffff:" ++ trimmed entry).toList =
      "::ffff:".toList ++ Text.trim entry.toList := by
    rw [String.toList_append, trimmed]
    exact congrArg ("::ffff:".toList ++ ·) String.toList_ofList
  rw [spelled, Text.trim_of_solid text.solid]
  exact text

theorem mapped_network_text {address : String} {bits : BitVec 32} {n : Nat}
    (dotted : Address.DottedText true address.toList bits) (fits : n ≤ 32) :
    NetworkText (Text.trim ("::ffff:" ++ address ++ "/" ++ toString (96 + n)).toList)
      (.v6 (0xFFFF#96 ++ bits) (96 + n)) := by
  have counts : ∀ n ≤ 32, Text.number? 10 (toString (96 + n)).toList = some (96 + n) ∧
      (toString (96 + n)).toList.length ≤ 3 := by decide +kernel
  obtain ⟨counted, short⟩ := counts n fits
  have text := NetworkText.v6 dotted.mapped (Text.number?_eq_some_iff.mp counted) short (by omega)
  have spelled : ("::ffff:" ++ address ++ "/" ++ toString (96 + n)).toList =
      ("::ffff:".toList ++ address.toList) ++ '/' :: (toString (96 + n)).toList := by
    simp only [String.toList_append, List.append_assoc]
    rfl
  rw [spelled, Text.trim_of_solid text.solid]
  exact text

theorem exempts_mapped_address {entry : String} {bits : BitVec 32}
    (dotted : Address.DottedText false (Text.trim entry.toList) bits) (c : Address) :
    Exempts ("::ffff:" ++ trimmed entry) c ↔ Exempts entry c := by
  rw [exempts_address_iff (mapped_address_text dotted), exempts_address_iff (.v4 dotted),
    Address.standsFor_iff, Address.standsFor_iff, Address.canonical_mapped]
  rfl

theorem not_exempts_mapped_network {address : String} {bits : BitVec 32} {n : Nat}
    (dotted : Address.DottedText true address.toList bits) (fits : n ≤ 32) (a : Address) :
    ¬ Exempts ("::ffff:" ++ address ++ "/" ++ toString (96 + n)) a.canonical := by
  rw [exempts_network_iff (mapped_network_text dotted fits)]
  intro covered
  obtain ⟨inner, same⟩ := Network.covers_mapped covered
  exact a.canonical_ne_mapped inner same

variable {entries kept others : List String}

theorem Respelled.kept_subset (respelled : Respelled entries kept others) : kept ⊆ entries := by
  induction respelled with
  | nil => exact List.Subset.refl _
  | same entry _ ih => exact List.cons_subset_cons entry ih
  | address _ _ ih => exact List.cons_subset_cons _ ih
  | network _ _ _ _ _ ih => exact List.subset_cons_of_subset _ ih

theorem Respelled.readable (respelled : Respelled entries kept others)
    (readable : ∀ entry ∈ entries, blank entry = false → Readable entry) :
    ∀ entry ∈ others, blank entry = false → Readable entry := by
  induction respelled with
  | nil => exact readable
  | same entry _ ih =>
    obtain ⟨first, later⟩ := List.forall_mem_cons.mp readable
    exact List.forall_mem_cons.mpr ⟨first, ih later⟩
  | address dotted _ ih =>
    have later := (List.forall_mem_cons.mp readable).2
    exact List.forall_mem_cons.mpr ⟨fun _ => .inl ⟨_, mapped_address_text dotted⟩, ih later⟩
  | network _ dotted _ fits _ ih =>
    have later := (List.forall_mem_cons.mp readable).2
    exact List.forall_mem_cons.mpr ⟨fun _ => .inr ⟨_, mapped_network_text dotted fits⟩, ih later⟩

theorem Respelled.exempts_iff (respelled : Respelled entries kept others) (a : Address) :
    (∃ entry ∈ others, Exempts entry a.canonical) ↔ ∃ entry ∈ kept, Exempts entry a.canonical := by
  induction respelled with
  | nil => exact Iff.rfl
  | same entry _ ih => simp only [List.mem_cons, exists_eq_or_imp, ih]
  | address dotted _ ih =>
    simp only [List.mem_cons, exists_eq_or_imp, ih, exempts_mapped_address dotted]
  | network _ dotted _ fits _ ih =>
    simp only [List.mem_cons, exists_eq_or_imp, ih, not_exempts_mapped_network dotted fits,
      false_or]

theorem contains_congr {v w : Whitelist} (first : parse entries = .ok v)
    (second : parse others = .ok w) {a b : Address}
    (same : (∃ entry ∈ others, Exempts entry b.canonical) ↔
      ∃ entry ∈ entries, Exempts entry a.canonical) : w.contains b = v.contains a := by
  rw [Bool.eq_iff_iff, contains_iff second, contains_iff first, same]

/-- With some IPv4 addresses in the mapped form, in the entries or in what is looked up, a whitelist
answers as before, and with some networks in the mapped form it answers as without these. -/
theorem mapped_forms_answer_alike {w : Whitelist} (respelled : Respelled entries kept others)
    (read : parse entries = .ok w) :
    ∃ v u, parse kept = .ok v ∧ parse others = .ok u ∧ (kept = entries → v = w) ∧
      (∀ a, u.contains a = v.contains a) ∧
      ∀ bits : BitVec 32, u.contains (.v6 (0xFFFF#96 ++ bits)) = v.contains (.v4 bits) := by
  have readable := parse_succeeds_iff.mp ⟨w, read⟩
  obtain ⟨v, first⟩ := parse_succeeds_iff.mpr fun entry member =>
    readable entry (respelled.kept_subset member)
  obtain ⟨u, second⟩ := parse_succeeds_iff.mpr (respelled.readable readable)
  refine ⟨v, u, first, second, ?_, ?_, ?_⟩
  · rintro rfl
    exact Except.ok.inj (first.symm.trans read)
  · exact fun a => contains_congr first second (respelled.exempts_iff a)
  · intro bits
    apply contains_congr first second
    rw [Address.canonical_mapped]
    exact respelled.exempts_iff (.v4 bits)

/-- An address keeps its exemption in the mapped form, and a network loses it. -/
theorem mapped_forms_answer_alike_loopback :
    let entries := ["10.0.0.0/8", " 127.0.0.1 "]
    let others := ["::ffff:10.0.0.0/104", "::ffff:127.0.0.1"]
    let w : Whitelist := ⟨[.network (.v4 0x0A000000#32 8), .exact (.v4 0x7F000001#32)]⟩
    Respelled entries [" 127.0.0.1 "] others ∧ parse entries = .ok w ∧
      ∃ u, parse others = .ok u ∧ u.contains (.v6 (0xFFFF#96 ++ 0x7F000001#32)) = true ∧
        u.contains (.v4 0x0A010203#32) = false := by
  intro entries others w
  have network : Address.octets? true "10.0.0.0".toList = some 0x0A000000 := by decide +kernel
  obtain ⟨_, ten, _⟩ := Address.octets?_eq_some_iff.mp network
  have address : Address.octets? false (Text.trim " 127.0.0.1 ".toList) = some 0x7F000001 := by
    decide +kernel
  obtain ⟨_, loopback, _⟩ := Address.octets?_eq_some_iff.mp address
  have eight : Text.Spells 10 "8".toList 8 := Text.number?_eq_some_iff.mp (by decide +kernel)
  have respelled : Respelled entries [" 127.0.0.1 "] others :=
    .network (by decide +kernel) ten eight (by decide) (.address loopback .nil)
  have read : parse entries = .ok w := by decide +kernel
  obtain ⟨v, u, first, second, _, same, mapped⟩ := mapped_forms_answer_alike respelled read
  have left : parse [" 127.0.0.1 "] = .ok ⟨[.exact (.v4 0x7F000001#32)]⟩ := by decide +kernel
  obtain rfl := Except.ok.inj (first.symm.trans left)
  exact ⟨respelled, read, u, second, (mapped _).trans (by decide), (same _).trans (by decide)⟩

/-- A network in the mapped form no longer covers an address that it covered. -/
theorem mapped_network_exempts_nothing :
    ∃ w u, parse ["10.0.0.0/8"] = .ok w ∧ parse ["::ffff:10.0.0.0/104"] = .ok u ∧
      w.contains (.v4 0x0A010203#32) = true ∧ u.contains (.v4 0x0A010203#32) = false := by
  refine ⟨⟨[.network (.v4 0x0A000000#32 8)]⟩,
    ⟨[.network (.v6 0x00000000000000000000FFFF0A000000#128 104)]⟩, ?_⟩
  decide +kernel

end Whitelist
end MapGate
