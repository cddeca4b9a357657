import Mathlib.Data.List.Induction
import MapGate.Auth.Address
import MapGate.Proofs.Text.Numeral
import MapGate.Proofs.Text.Pieces

/-!
How addresses and networks are written. The texts are given by rules of their own, and the readers
of addresses and networks give a value exactly for the texts that the rules have for it.
-/
namespace MapGate
namespace Address

/-- A decimal byte: one to three digits, with leading zeros only where `padded` allows them. -/
structure ByteText (padded : Bool) (cs : List Char) (byte : BitVec 8) : Prop where
  spells : Text.Spells 10 cs byte.toNat
  short : cs.length ≤ 3
  plain : padded = true ∨ cs.length = 1 ∨ cs.head? ≠ some '0'

/-- Four decimal bytes with dots between them. -/
inductive DottedText (padded : Bool) : List Char → BitVec 32 → Prop where
  | bytes {a b c d : List Char} {w x y z : BitVec 8} (first : ByteText padded a w)
      (second : ByteText padded b x) (third : ByteText padded c y) (fourth : ByteText padded d z) :
      DottedText padded (a ++ '.' :: (b ++ '.' :: (c ++ '.' :: d))) (w ++ x ++ y ++ z)

/-- A group: one to four hexadecimal digits. -/
structure GroupText (cs : List Char) (group : Nat) : Prop where
  spells : Text.Spells 16 cs group
  short : cs.length ≤ 4

/-- Groups with colons between them, the last two possibly as four decimal bytes. -/
inductive GroupsText (padded : Bool) : List Char → List Nat → Prop where
  | last {cs : List Char} {g : Nat} (group : GroupText cs g) : GroupsText padded cs [g]
  | dotted {cs : List Char} {bits : BitVec 32} (bytes : DottedText padded cs bits) :
      GroupsText padded cs [bits.toNat / 65536, bits.toNat % 65536]
  | next {cs rest : List Char} {g : Nat} {gs : List Nat} (group : GroupText cs g)
      (later : GroupsText padded rest gs) : GroupsText padded (cs ++ ':' :: rest) (g :: gs)

/-- The groups on one side of a double colon, of which there may be none. -/
inductive SideText (padded : Bool) : List Char → List Nat → Prop where
  | empty : SideText padded [] []
  | groups {cs : List Char} {gs : List Nat} (text : GroupsText padded cs gs) :
      SideText padded cs gs

/-- Eight groups, or fewer around a double colon that stands for the missing ones; decimal bytes end
the text or do not occur. -/
inductive EightText (padded : Bool) : List Char → List Nat → Prop where
  | full {cs : List Char} {gs : List Nat} (groups : GroupsText padded cs gs)
      (eight : gs.length = 8) : EightText padded cs gs
  | gap {front back : List Char} {fs bs : List Nat} (before : SideText padded front fs)
      (hexadecimal : '.' ∉ front) (behind : SideText padded back bs)
      (short : fs.length + bs.length ≤ 7) :
      EightText padded (front ++ ':' :: ':' :: back)
        (fs ++ List.replicate (8 - fs.length - bs.length) 0 ++ bs)

end Address

/-- The texts of an address. -/
inductive AddressText (padded : Bool) : List Char → Address → Prop where
  | v4 {cs : List Char} {bits : BitVec 32} (bytes : Address.DottedText padded cs bits) :
      AddressText padded cs (.v4 bits)
  | v6 {cs : List Char} {groups : List Nat} {bits : BitVec 128}
      (text : Address.EightText padded cs groups)
      (value : bits.toNat = Nat.ofDigits 65536 groups.reverse) : AddressText padded cs (.v6 bits)

/-- The texts of a network: an address, a slash and the number of leading bits. -/
inductive NetworkText : List Char → Network → Prop where
  | v4 {address length : List Char} {bits : BitVec 32} {n : Nat}
      (start : AddressText true address (.v4 bits)) (spells : Text.Spells 10 length n)
      (short : length.length ≤ 2) (fits : n ≤ 32) :
      NetworkText (address ++ '/' :: length) (.v4 bits n)
  | v6 {address length : List Char} {bits : BitVec 128} {n : Nat}
      (start : AddressText true address (.v6 bits)) (spells : Text.Spells 10 length n)
      (short : length.length ≤ 3) (fits : n ≤ 128) :
      NetworkText (address ++ '/' :: length) (.v6 bits n)

namespace Address

variable {padded : Bool} {cs : List Char}

theorem octet?_eq_some_iff {n : Nat} :
    octet? padded cs = some n ↔ ∃ byte, ByteText padded cs byte ∧ n = byte.toNat := by
  unfold octet?
  constructor
  · intro found
    split at found
    case isTrue form =>
      split at found
      case h_1 value spelled =>
        split at found
        case isTrue small =>
          obtain rfl := Option.some.inj found
          have same : (BitVec.ofNat 8 value).toNat = value := Nat.mod_eq_of_lt small
          refine ⟨BitVec.ofNat 8 value, ⟨?_, ?_, ?_⟩, same.symm⟩
          · rw [same]
            exact Text.number?_eq_some_iff.mp spelled
          · grind
          · grind
        case isFalse => cases found
      case h_2 => cases found
    case isFalse => cases found
  · rintro ⟨byte, text, rfl⟩
    have form : (decide (cs.length ≤ 3) &&
        (padded || cs.length == 1 || cs.head? != some '0')) = true := by
      have := text.short
      have := text.plain
      grind
    rw [if_pos form, Text.number?_eq_some_iff.mpr text.spells]
    exact if_pos byte.isLt

theorem ByteText.not_mem {byte : BitVec 8} (text : ByteText padded cs byte) {c : Char}
    (other : Text.hexValue? c = none) : c ∉ cs :=
  text.spells.not_mem other

theorem toNat_append {m n : Nat} (front : BitVec m) (back : BitVec n) :
    (front ++ back).toNat = front.toNat * 2 ^ n + back.toNat := by
  rw [BitVec.toNat_append, ← Nat.shiftLeft_add_eq_or_of_lt back.isLt, Nat.shiftLeft_eq]

theorem toNat_bytes (w x y z : BitVec 8) : (w ++ x ++ y ++ z).toNat =
    ((w.toNat * 256 + x.toNat) * 256 + y.toNat) * 256 + z.toNat := by
  simp only [toNat_append, Nat.reducePow]

theorem octets?_eq_some_iff {n : Nat} :
    octets? padded cs = some n ↔ ∃ bits, DottedText padded cs bits ∧ n = bits.toNat := by
  unfold octets?
  constructor
  · intro found
    split at found
    case h_1 p q r s pieces =>
      obtain rfl := Option.some.inj found
      obtain ⟨a, as, cut, first, pieces⟩ := List.map_eq_cons_iff.mp pieces
      obtain ⟨b, bs, rfl, second, pieces⟩ := List.map_eq_cons_iff.mp pieces
      obtain ⟨c, cs, rfl, third, pieces⟩ := List.map_eq_cons_iff.mp pieces
      obtain ⟨d, ds, rfl, fourth, pieces⟩ := List.map_eq_cons_iff.mp pieces
      obtain rfl := List.map_eq_nil_iff.mp pieces
      obtain ⟨w, firstText, rfl⟩ := octet?_eq_some_iff.mp first
      obtain ⟨x, secondText, rfl⟩ := octet?_eq_some_iff.mp second
      obtain ⟨y, thirdText, rfl⟩ := octet?_eq_some_iff.mp third
      obtain ⟨z, fourthText, rfl⟩ := octet?_eq_some_iff.mp fourth
      obtain ⟨rfl, _⟩ := Text.split_spells cut
      refine ⟨w ++ x ++ y ++ z, ?_, (toNat_bytes w x y z).symm⟩
      simpa [Text.behind] using DottedText.bytes firstText secondText thirdText fourthText
    case h_2 => cases found
  · rintro ⟨_, ⟨first, second, third, fourth⟩, rfl⟩
    rename_i a b c d w x y z
    have clean : ∀ p ∈ [a, b, c, d], '.' ∉ p := by
      simp only [List.forall_mem_cons]
      exact ⟨first.not_mem rfl, second.not_mem rfl, third.not_mem rfl, fourth.not_mem rfl,
        List.forall_mem_nil _⟩
    have cut := Text.split_append_behind clean
    simp only [Text.behind_cons, Text.behind_nil, List.append_nil] at cut
    rw [cut, toNat_bytes]
    simp only [List.map_cons, List.map_nil, octet?_eq_some_iff.mpr ⟨w, first, rfl⟩,
      octet?_eq_some_iff.mpr ⟨x, second, rfl⟩, octet?_eq_some_iff.mpr ⟨y, third, rfl⟩,
      octet?_eq_some_iff.mpr ⟨z, fourth, rfl⟩]

theorem group?_eq_some_iff {g : Nat} : group? cs = some g ↔ GroupText cs g := by
  unfold group?
  split
  case isTrue short =>
    exact Text.number?_eq_some_iff.trans ⟨fun spells => ⟨spells, short⟩, GroupText.spells⟩
  case isFalse long => exact iff_of_false nofun fun text => long text.short

theorem GroupText.not_mem {g : Nat} (text : GroupText cs g) {c : Char}
    (other : Text.hexValue? c = none) : c ∉ cs :=
  text.spells.not_mem other

theorem DottedText.dot_mem {bits : BitVec 32} (text : DottedText padded cs bits) : '.' ∈ cs := by
  cases text
  simp

theorem DottedText.not_mem {bits : BitVec 32} (text : DottedText padded cs bits) {c : Char}
    (other : Text.hexValue? c = none) (solid : c ≠ '.') : c ∉ cs := by
  cases text with
  | bytes first second third fourth =>
    simp [first.not_mem other, second.not_mem other, third.not_mem other, fourth.not_mem other,
      solid]

theorem DottedText.colon_not_mem {bits : BitVec 32} (text : DottedText padded cs bits) : ':' ∉ cs :=
  text.not_mem rfl (by decide)

theorem groupsOf?_last {gs : List Nat} :
    groupsOf? padded [cs] = some gs ↔ (∃ g, GroupText cs g ∧ gs = [g]) ∨
      ∃ bits, DottedText padded cs bits ∧ gs = [bits.toNat / 65536, bits.toNat % 65536] := by
  rw [groupsOf?]
  cases found : group? cs with
  | some g =>
    have text := group?_eq_some_iff.mp found
    have undotted (bits : BitVec 32) : ¬ DottedText padded cs bits :=
      fun dotted => text.not_mem rfl dotted.dot_mem
    simp [undotted, ← group?_eq_some_iff, found, eq_comm]
  | none =>
    simp only [← group?_eq_some_iff, found, Option.map_eq_some_iff, octets?_eq_some_iff]
    constructor
    · rintro ⟨_, ⟨bits, text, rfl⟩, rfl⟩
      exact .inr ⟨bits, text, rfl⟩
    · rintro (⟨_, ⟨⟩, _⟩ | ⟨bits, text, rfl⟩)
      exact ⟨_, ⟨bits, text, rfl⟩, rfl⟩

theorem split_group {g : Nat} {rest : List Char} (text : GroupText cs g) :
    Text.split ':' (cs ++ ':' :: rest) = cs :: Text.split ':' rest := by
  rw [Text.split_append (text.not_mem rfl) (Text.split_separator rest), List.append_nil]

theorem groupsOf?_next {p q : List Char} {qs : List (List Char)} {gs : List Nat} :
    groupsOf? padded (p :: q :: qs) = some gs ↔
      ∃ g later, GroupText p g ∧ groupsOf? padded (q :: qs) = some later ∧ gs = g :: later := by
  rw [groupsOf?]
  · simp only [← group?_eq_some_iff]
    cases group? p <;> cases groupsOf? padded (q :: qs) <;> simp [eq_comm]
  · nofun

/-- Reading the pieces between colons is reading groups with colons between them. -/
theorem groupsOf?_eq_some_iff {p : List Char} {ps : List (List Char)} {gs : List Nat}
    (cut : Text.split ':' cs = p :: ps) :
    groupsOf? padded (p :: ps) = some gs ↔ GroupsText padded cs gs := by
  induction ps generalizing cs p gs with
  | nil =>
    obtain ⟨rfl, clean⟩ := Text.split_spells cut
    rw [Text.behind_nil, List.append_nil] at cut ⊢
    rw [groupsOf?_last]
    constructor
    · rintro (⟨g, text, rfl⟩ | ⟨bits, text, rfl⟩)
      · exact .last text
      · exact .dotted text
    · intro text
      cases text with
      | last text => exact .inl ⟨_, text, rfl⟩
      | dotted text => exact .inr ⟨_, text, rfl⟩
      | next text => exact absurd cut (by simp [split_group text, Text.split_ne_nil])
  | cons q qs ih =>
    rw [groupsOf?_next]
    constructor
    · rintro ⟨g, later, text, found, rfl⟩
      obtain ⟨rfl, clean⟩ := Text.split_spells cut
      have tail := Text.split_append_behind (List.forall_mem_cons.mp clean).2
      exact .next text ((ih tail).mp found)
    · intro text
      cases text with
      | last text =>
        have clean : ':' ∉ cs := text.not_mem rfl
        exact absurd cut (by simp [Text.split_of_not_mem clean])
      | dotted text =>
        exact absurd cut (by simp [Text.split_of_not_mem text.colon_not_mem])
      | next text later =>
        rw [split_group text] at cut
        obtain ⟨rfl, tail⟩ := List.cons.inj cut
        exact ⟨_, _, text, (ih tail).mpr later, rfl⟩

theorem begins_of_clean (present : cs ≠ []) (clean : ':' ∉ cs) :
    ∃ c rest, cs = c :: rest ∧ c ≠ ':' := by
  obtain ⟨c, rest, rfl⟩ := List.exists_cons_of_ne_nil present
  exact ⟨c, rest, rfl, fun colon => clean (colon ▸ List.mem_cons_self)⟩

theorem GroupText.begins {g : Nat} (text : GroupText cs g) : ∃ c rest, cs = c :: rest ∧ c ≠ ':' :=
  begins_of_clean text.spells.1 (text.not_mem rfl)

theorem GroupsText.begins {gs : List Nat} (text : GroupsText padded cs gs) :
    ∃ c rest, cs = c :: rest ∧ c ≠ ':' := by
  cases text with
  | last text => exact text.begins
  | dotted text => exact begins_of_clean (List.ne_nil_of_mem text.dot_mem) text.colon_not_mem
  | next text =>
    obtain ⟨c, rest, rfl, solid⟩ := text.begins
    exact ⟨c, _, rfl, solid⟩

theorem groups?_eq_some_iff {gs : List Nat} :
    groups? padded cs = some gs ↔ SideText padded cs gs := by
  unfold groups?
  split
  case isTrue empty =>
    obtain rfl := List.isEmpty_iff.mp empty
    constructor
    · rintro ⟨⟩
      exact .empty
    · intro text
      cases text with
      | empty => rfl
      | groups text => exact nomatch text.begins
  case isFalse present =>
    obtain ⟨p, ps, cut⟩ := Text.exists_split ':' cs
    rw [cut, groupsOf?_eq_some_iff cut]
    constructor
    · exact .groups
    · intro text
      cases text with
      | empty => exact absurd rfl present
      | groups text => exact text

theorem cutGap?_append {p : List Char} (clean : ':' ∉ p) (rest : List Char) :
    cutGap? (p ++ rest) = (cutGap? rest).map fun (before, after) => (p ++ before, after) := by
  induction p with
  | nil => simp
  | cons c p ih =>
    obtain ⟨solid, later⟩ := not_or.mp (mt List.mem_cons.mpr clean)
    rw [List.cons_append, cutGap?, ih later, Option.map_map]
    · rfl
    · exact fun _ colon => absurd colon.symm solid

theorem cutGap?_colon {c : Char} (solid : c ≠ ':') (rest : List Char) :
    cutGap? (':' :: c :: rest) =
      (cutGap? (c :: rest)).map fun (before, after) => (':' :: before, after) := by
  rw [cutGap?]
  exact fun _ _ colon => solid (List.cons.inj colon).1

/-- Groups with colons between them hold no double colon, nor make one with what follows. -/
theorem cutGap?_groups {gs : List Nat} (text : GroupsText padded cs gs) (rest : List Char) :
    cutGap? (cs ++ rest) = (cutGap? rest).map fun (before, after) => (cs ++ before, after) := by
  induction text with
  | last text => exact cutGap?_append (text.not_mem rfl) rest
  | dotted text => exact cutGap?_append text.colon_not_mem rest
  | next text later ih =>
    obtain ⟨c, more, rfl, solid⟩ := later.begins
    rw [List.append_assoc, cutGap?_append (text.not_mem rfl), List.cons_append, List.cons_append,
      cutGap?_colon solid, ← List.cons_append, ih, Option.map_map, Option.map_map]
    simp [Function.comp_def]

theorem cutGap?_spells {front back : List Char} (cut : cutGap? cs = some (front, back)) :
    cs = front ++ ':' :: ':' :: back := by
  fun_induction cutGap? cs generalizing front with
  | case1 => cases cut
  | case2 rest =>
    cases cut
    rfl
  | case3 c rest _ ih =>
    obtain ⟨⟨before, after⟩, found, same⟩ := Option.map_eq_some_iff.mp cut
    cases same
    rw [ih found]
    rfl

theorem cutGap?_side {front back : List Char} {fs : List Nat} (text : SideText padded front fs) :
    cutGap? (front ++ ':' :: ':' :: back) = some (front, back) := by
  cases text with
  | empty => rfl
  | groups text => simp [cutGap?_groups text, cutGap?]

/-- Reading eight groups is reading the text of eight groups. -/
theorem v6?_eq_some_iff {bits : BitVec 128} : v6? padded cs = some bits ↔
    ∃ groups, EightText padded cs groups ∧ bits = BitVec.ofNat 128 (joinGroups groups) := by
  unfold v6?
  constructor
  · intro found
    split at found
    case h_1 uncut =>
      split at found
      case h_1 gs groups =>
        split at found
        case isTrue eight =>
          obtain rfl := Option.some.inj found
          have text := groups?_eq_some_iff.mp groups
          cases text with
          | empty => cases eight
          | groups text => exact ⟨gs, .full text eight, rfl⟩
        case isFalse => cases found
      case h_2 => cases found
    case h_2 front back cut =>
      obtain rfl := cutGap?_spells cut
      split at found
      case h_1 fs bs before behind =>
        split at found
        case isTrue => cases found
        case isFalse hexadecimal =>
          split at found
          case isTrue short =>
            obtain rfl := Option.some.inj found
            have early := groups?_eq_some_iff.mp before
            have late := groups?_eq_some_iff.mp behind
            exact ⟨_, .gap early (by simpa using hexadecimal) late short, rfl⟩
          case isFalse => cases found
      case h_2 => cases found
  · rintro ⟨groups, text, rfl⟩
    cases text with
    | full text eight =>
      have uncut := cutGap?_groups text []
      rw [List.append_nil] at uncut
      have read := groups?_eq_some_iff.mpr (.groups text)
      simp [uncut, cutGap?, read, eight]
    | gap before hexadecimal behind short =>
      simp [cutGap?_side before, groups?_eq_some_iff.mpr before, groups?_eq_some_iff.mpr behind,
        hexadecimal, short]

theorem joinGroups_eq_ofDigits (groups : List Nat) :
    joinGroups groups = Nat.ofDigits 65536 groups.reverse := by
  induction groups using List.reverseRecOn with
  | nil => rfl
  | append_singleton groups g ih =>
    rw [joinGroups] at ih
    rw [joinGroups, List.foldl_append, ih, List.reverse_append, List.reverse_singleton,
      List.singleton_append, Nat.ofDigits_cons]
    simp only [List.foldl_cons, List.foldl_nil]
    omega

theorem GroupText.lt {g : Nat} (text : GroupText cs g) : g < 65536 :=
  calc g < 16 ^ cs.length := text.spells.lt (by decide)
    _ ≤ 16 ^ 4 := Nat.pow_le_pow_right (by decide) text.short

theorem GroupsText.lt {gs : List Nat} (text : GroupsText padded cs gs) : ∀ g ∈ gs, g < 65536 := by
  induction text with
  | last text => simpa using text.lt
  | dotted =>
    rename_i bits _
    have whole := bits.isLt
    simp only [List.forall_mem_cons]
    exact ⟨by omega, by omega, nofun⟩
  | next text _ ih => exact List.forall_mem_cons.mpr ⟨text.lt, ih⟩

theorem SideText.lt {gs : List Nat} (text : SideText padded cs gs) : ∀ g ∈ gs, g < 65536 := by
  cases text with
  | empty => exact nofun
  | groups text => exact text.lt

theorem EightText.value_lt {gs : List Nat} (text : EightText padded cs gs) :
    Nat.ofDigits 65536 gs.reverse < 2 ^ 128 := by
  have bound : ∀ g ∈ gs, g < 65536 := by
    cases text with
    | full text => exact text.lt
    | gap before _ behind =>
      simp only [List.forall_mem_append]
      exact ⟨⟨before.lt, by simp⟩, behind.lt⟩
  have eight : gs.length = 8 := by
    cases text with
    | full _ eight => exact eight
    | gap => simp; omega
  have below := Nat.ofDigits_lt_base_pow_length (b := 65536) (l := gs.reverse) (by decide)
    fun g member => bound g (List.mem_reverse.mp member)
  rwa [List.length_reverse, eight] at below

theorem EightText.colon_mem {gs : List Nat} (text : EightText padded cs gs) : ':' ∈ cs := by
  cases text with
  | gap => simp
  | full text eight =>
    cases text with
    | last => cases eight
    | dotted => cases eight
    | next => simp

theorem read?_eq_some_iff {a : Address} : read? padded cs = some a ↔ AddressText padded cs a := by
  unfold read?
  constructor
  · intro found
    split at found
    case h_1 n dotted =>
      obtain ⟨bits, text, rfl⟩ := octets?_eq_some_iff.mp dotted
      obtain rfl := Option.some.inj found
      rw [BitVec.ofNat_toNat, BitVec.setWidth_eq]
      exact .v4 text
    case h_2 =>
      obtain ⟨bits, groups, rfl⟩ := Option.map_eq_some_iff.mp found
      obtain ⟨groups, text, rfl⟩ := v6?_eq_some_iff.mp groups
      refine .v6 text ?_
      rw [joinGroups_eq_ofDigits]
      exact Nat.mod_eq_of_lt text.value_lt
  · intro text
    cases text with
    | v4 text => simp [octets?_eq_some_iff.mpr ⟨_, text, rfl⟩]
    | v6 text value =>
      rename_i groups bits
      have undotted : octets? padded cs = none := by
        by_contra some
        obtain ⟨n, dotted⟩ := Option.ne_none_iff_exists'.mp some
        obtain ⟨_, dotted, _⟩ := octets?_eq_some_iff.mp dotted
        exact dotted.colon_not_mem text.colon_mem
      have same : bits = BitVec.ofNat 128 (joinGroups groups) := by
        rw [joinGroups_eq_ofDigits, ← value, BitVec.ofNat_toNat, BitVec.setWidth_eq]
      rw [undotted, v6?_eq_some_iff.mpr ⟨groups, text, same⟩]
      rfl

variable {c : Char} (other : Text.hexValue? c = none) (dot : c ≠ '.') (colon : c ≠ ':')

include other dot colon

theorem GroupsText.not_mem {gs : List Nat} (text : GroupsText padded cs gs) : c ∉ cs := by
  induction text with
  | last text => exact text.not_mem other
  | dotted text => exact text.not_mem other dot
  | next text _ ih => simp [text.not_mem other, colon, ih]

theorem SideText.not_mem {gs : List Nat} (text : SideText padded cs gs) : c ∉ cs := by
  cases text with
  | empty => exact List.not_mem_nil
  | groups text => exact text.not_mem other dot colon

theorem EightText.not_mem {gs : List Nat} (text : EightText padded cs gs) : c ∉ cs := by
  cases text with
  | full text => exact text.not_mem other dot colon
  | gap before _ behind =>
    simp [before.not_mem other dot colon, behind.not_mem other dot colon, colon]

end Address

namespace AddressText

variable {padded : Bool} {cs : List Char} {a : Address}

/-- An address is written in hexadecimal digits, dots and colons. -/
theorem not_mem (text : AddressText padded cs a) {c : Char} (other : Text.hexValue? c = none)
    (dot : c ≠ '.') (colon : c ≠ ':') : c ∉ cs := by
  cases text with
  | v4 text => exact text.not_mem other dot
  | v6 text => exact text.not_mem other dot colon

theorem slash_not_mem (text : AddressText padded cs a) : '/' ∉ cs :=
  text.not_mem rfl (by decide) (by decide)

end AddressText

namespace Network

theorem prefixLength?_eq_some_iff {digits width n : Nat} {cs : List Char} :
    prefixLength? digits width cs = some n ↔
      Text.Spells 10 cs n ∧ cs.length ≤ digits ∧ n ≤ width := by
  unfold prefixLength?
  rw [← Text.number?_eq_some_iff]
  split
  case isTrue short =>
    cases Text.number? 10 cs with
    | none => simp
    | some m => grind
  case isFalse long => exact iff_of_false nofun fun text => long text.2.1

theorem split_network {padded : Bool} {address length : List Char} {a : Address} {n : Nat}
    (start : AddressText padded address a) (spells : Text.Spells 10 length n) :
    Text.split '/' (address ++ '/' :: length) = [address, length] := by
  rw [Text.split_append_separator, Text.split_of_not_mem start.slash_not_mem,
    Text.split_of_not_mem (spells.not_mem rfl)]
  rfl

theorem ofChars?_eq_some_iff {cs : List Char} {n : Network} :
    ofChars? cs = some n ↔ NetworkText cs n := by
  unfold ofChars?
  constructor
  · intro found
    split at found
    case h_1 address length cut =>
      obtain ⟨rfl, _⟩ := Text.split_spells cut
      rw [Text.behind_cons, Text.behind_nil, List.append_nil]
      split at found
      case h_1 bits read =>
        obtain ⟨m, spelled, rfl⟩ := Option.map_eq_some_iff.mp found
        obtain ⟨spells, short, fits⟩ := prefixLength?_eq_some_iff.mp spelled
        exact .v4 (Address.read?_eq_some_iff.mp read) spells short fits
      case h_2 bits read =>
        obtain ⟨m, spelled, rfl⟩ := Option.map_eq_some_iff.mp found
        obtain ⟨spells, short, fits⟩ := prefixLength?_eq_some_iff.mp spelled
        exact .v6 (Address.read?_eq_some_iff.mp read) spells short fits
      case h_3 => cases found
    case h_2 => cases found
  · intro text
    cases text with
    | v4 start spells short fits =>
      rw [split_network start spells]
      simp [Address.read?_eq_some_iff.mpr start,
        prefixLength?_eq_some_iff.mpr ⟨spells, short, fits⟩]
    | v6 start spells short fits =>
      rw [split_network start spells]
      simp [Address.read?_eq_some_iff.mpr start,
        prefixLength?_eq_some_iff.mpr ⟨spells, short, fits⟩]

end Network
end MapGate
