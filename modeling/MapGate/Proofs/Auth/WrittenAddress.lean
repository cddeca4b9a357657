import MapGate.Proofs.Auth.MappedEntries
import MapGate.Proofs.Text.WrittenDigits

/-!
Addresses as they are written. The text of an address is one of its texts, in decimal bytes or in
groups, with or without a run of zero groups left out, so reading it gives back the address.
-/
namespace MapGate.Address

theorem byteText_digits (byte : BitVec 8) : ByteText false (Nat.toDigits 10 byte.toNat) byte where
  spells := Text.spells_toDigits (by decide) (by decide) _
  short := (Nat.length_toDigits_le_iff (by decide) (by decide)).mpr
    (Nat.lt_trans byte.isLt (by decide))
  plain := .inr (Text.toDigits_plain (by decide) _)

theorem dottedText_octetsText (bits : BitVec 32) :
    DottedText false (octetsText bits).toList bits := by
  let w := BitVec.ofNat 8 (bits.toNat / 16777216)
  let x := BitVec.ofNat 8 (bits.toNat / 65536)
  let y := BitVec.ofNat 8 (bits.toNat / 256)
  let z := BitVec.ofNat 8 bits.toNat
  have whole := bits.isLt
  have first : w.toNat = bits.toNat / 16777216 := Nat.mod_eq_of_lt (by omega)
  have second : x.toNat = bits.toNat / 65536 % 256 := BitVec.toNat_ofNat _ 8
  have third : y.toNat = bits.toNat / 256 % 256 := BitVec.toNat_ofNat _ 8
  have fourth : z.toNat = bits.toNat % 256 := BitVec.toNat_ofNat _ 8
  have value : w ++ x ++ y ++ z = bits := by
    rw [← BitVec.toNat_inj, toNat_bytes, first, second, third, fourth]
    omega
  have text := DottedText.bytes (byteText_digits w) (byteText_digits x) (byteText_digits y)
    (byteText_digits z)
  rw [value, first, second, third, fourth] at text
  simpa [octetsText, String.toList_intercalate, Nat.toString_eq_ofList_toDigits] using text

theorem groupText_digits {g : Nat} (small : g < 65536) : GroupText (Nat.toDigits 16 g) g where
  spells := Text.spells_toDigits (by decide) (by decide) g
  short := (Nat.length_toDigits_le_iff (by decide) (by decide)).mpr small

theorem groupsText_cons (g h : Nat) (rest : List Nat) : (groupsText (g :: h :: rest)).toList =
    Nat.toDigits 16 g ++ ':' :: (groupsText (h :: rest)).toList := by
  simp [groupsText]

theorem groupsText_spells {g : Nat} {rest : List Nat} (small : ∀ h ∈ g :: rest, h < 65536) :
    GroupsText false (groupsText (g :: rest)).toList (g :: rest) ∧
      '.' ∉ (groupsText (g :: rest)).toList := by
  induction rest generalizing g with
  | nil =>
    have text := groupText_digits (small g List.mem_cons_self)
    have alone : (groupsText [g]).toList = Nat.toDigits 16 g := by simp [groupsText]
    rw [alone]
    exact ⟨.last text, text.not_mem rfl⟩
  | cons h rest ih =>
    obtain ⟨own, others⟩ := List.forall_mem_cons.mp small
    obtain ⟨later, clean⟩ := ih others
    have text := groupText_digits own
    rw [groupsText_cons]
    refine ⟨.next text later, ?_⟩
    rw [List.mem_append, List.mem_cons]
    rintro (first | same | last)
    · exact text.not_mem rfl first
    · exact absurd same (by decide)
    · exact clean last

theorem sideText_groupsText {groups : List Nat} (small : ∀ g ∈ groups, g < 65536) :
    SideText false (groupsText groups).toList groups ∧ '.' ∉ (groupsText groups).toList := by
  cases groups with
  | nil => exact ⟨.empty, List.not_mem_nil⟩
  | cons g rest =>
    obtain ⟨text, clean⟩ := groupsText_spells small
    exact ⟨.groups text, clean⟩

theorem zeroRun_spec (groups : List Nat) :
    groups = List.replicate (zeroRun groups) 0 ++ groups.dropWhile (· == 0) := by
  have zeros : groups.takeWhile (· == 0) = List.replicate (zeroRun groups) 0 := by
    refine List.eq_replicate_iff.mpr ⟨rfl, fun g member => ?_⟩
    simpa using List.mem_takeWhile_imp member
  rw [← zeros, List.takeWhile_append_dropWhile]

/-- The run that is found is a run of zeros where it is said to be. -/
theorem longestRun_spec (i : Nat) (groups : List Nat) : ∃ front back,
    groups = front ++ List.replicate (longestRun i groups).2 0 ++ back ∧
      (longestRun i groups).1 = i + front.length := by
  induction groups generalizing i with
  | nil => exact ⟨[], [], rfl, rfl⟩
  | cons g rest ih =>
    unfold longestRun
    dsimp only
    split
    · exact ⟨[], _, zeroRun_spec (g :: rest), rfl⟩
    · obtain ⟨front, back, split, place⟩ := ih (i + 1)
      refine ⟨g :: front, back, ?_, ?_⟩
      · rw [List.cons_append, List.cons_append, ← split]
      · rw [place, List.length_cons]
        omega

theorem groupsOf_eq (bits : BitVec 128) : groupsOf bits =
    [bits.toNat / 2 ^ 112 % 65536, bits.toNat / 2 ^ 96 % 65536, bits.toNat / 2 ^ 80 % 65536,
      bits.toNat / 2 ^ 64 % 65536, bits.toNat / 2 ^ 48 % 65536, bits.toNat / 2 ^ 32 % 65536,
      bits.toNat / 2 ^ 16 % 65536, bits.toNat % 65536] := by
  simp [groupsOf, List.range_succ, BitVec.toNat_ushiftRight, Nat.shiftRight_eq_div_pow]

theorem groupsOf_lt {bits : BitVec 128} : ∀ g ∈ groupsOf bits, g < 65536 := by
  intro g member
  obtain ⟨i, _, rfl⟩ := List.mem_map.mp member
  exact Nat.mod_lt _ (by decide)

theorem ofDigits_groupsOf (bits : BitVec 128) :
    Nat.ofDigits 65536 (groupsOf bits).reverse = bits.toNat := by
  have whole := bits.isLt
  rw [groupsOf_eq]
  simp only [List.reverse_cons, List.reverse_nil, List.nil_append, List.cons_append,
    Nat.ofDigits_cons, Nat.ofDigits_nil]
  omega

/-- A run of several zeros may be left out. -/
theorem eightText_gap {front back : List Nat} {zeros : Nat} (several : 1 < zeros)
    (eight : (front ++ List.replicate zeros 0 ++ back).length = 8)
    (small : ∀ g ∈ front ++ List.replicate zeros 0 ++ back, g < 65536) :
    EightText false ((groupsText front).toList ++ ':' :: ':' :: (groupsText back).toList)
      (front ++ List.replicate zeros 0 ++ back) := by
  rw [List.forall_mem_append, List.forall_mem_append] at small
  rw [List.length_append, List.length_append, List.length_replicate] at eight
  obtain ⟨before, hexadecimal⟩ := sideText_groupsText small.1.1
  obtain ⟨behind, _⟩ := sideText_groupsText small.2
  have text := EightText.gap before hexadecimal behind (by omega)
  rwa [show 8 - front.length - back.length = zeros by omega] at text

theorem eightText_text {bits : BitVec 128} (other : mapped? bits = none) :
    EightText false (text (.v6 bits)).toList (groupsOf bits) := by
  have eight : (groupsOf bits).length = 8 := by rw [groupsOf_eq]; rfl
  have small : ∀ g ∈ groupsOf bits, g < 65536 := groupsOf_lt
  rw [text, other]
  dsimp only
  split
  case isTrue several =>
    obtain ⟨front, back, split, place⟩ := longestRun_spec 0 (groupsOf bits)
    generalize longestRun 0 (groupsOf bits) = run at several split place ⊢
    obtain ⟨start, zeros⟩ := run
    dsimp only at several split place ⊢
    obtain rfl : start = front.length := place.trans (Nat.zero_add _)
    rw [split] at eight small ⊢
    have early : (front ++ List.replicate zeros 0 ++ back).take front.length = front := by
      rw [List.append_assoc, List.take_left]
    have late : (front ++ List.replicate zeros 0 ++ back).drop (front.length + zeros) = back :=
      List.drop_left' (by simp)
    rw [early, late]
    simpa using eightText_gap several eight small
  case isFalse =>
    obtain ⟨g, rest, whole⟩ := List.exists_cons_of_length_eq_add_one eight
    rw [whole] at eight small ⊢
    exact .full (groupsText_spells small).1 eight

/-- The text of an address is one of the texts that it is read from. -/
theorem addressText_text (a : Address) : AddressText false a.text.toList a := by
  cases a with
  | v4 bits => exact .v4 (dottedText_octetsText bits)
  | v6 bits =>
    cases found : mapped? bits with
    | some inner =>
      obtain rfl := mapped?_eq_some_iff.mp found
      have mapped := (dottedText_octetsText inner).mapped
      simpa [text, found] using mapped
    | none => exact .v6 (eightText_text found) (ofDigits_groupsOf bits).symm

theorem parse?_text (a : Address) : parse? a.text = some a :=
  read?_eq_some_iff.mpr (addressText_text a)

end MapGate.Address
