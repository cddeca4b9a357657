import Mathlib.Data.Nat.Digits.Defs
import Mathlib.Tactic.Ring
import MapGate.Text.Blank
import MapGate.Text.Digit

/-!
The numbers that digits spell. Reading a run of digits gives the number whose digits in that base
they are, most significant first, and fails on every other text.
-/
namespace MapGate.Text

/-- The digits of a text, most significant first. -/
def Digits (base : Nat) (cs : List Char) (digits : List Nat) : Prop :=
  cs.map (digitValue? base) = digits.map some

/-- A text of one digit or more that spells a number. -/
def Spells (base : Nat) (cs : List Char) (n : Nat) : Prop :=
  cs ≠ [] ∧ ∃ digits, Digits base cs digits ∧ n = Nat.ofDigits base digits.reverse

theorem digits_cons_iff {base : Nat} {c : Char} {cs : List Char} {digits : List Nat} :
    Digits base (c :: cs) digits ↔
      ∃ d rest, digits = d :: rest ∧ digitValue? base c = some d ∧ Digits base cs rest := by
  cases digits with
  | nil => simp [Digits]
  | cons d rest => simp [Digits]

theorem Digits.length_eq {base : Nat} {cs : List Char} {digits : List Nat}
    (spelled : Digits base cs digits) : digits.length = cs.length := by
  have same := congrArg List.length spelled
  rw [List.length_map, List.length_map] at same
  exact same.symm

theorem ofDigits_leading {base acc d : Nat} {cs : List Char} {rest : List Nat}
    (spelled : Digits base cs rest) :
    (acc * base + d) * base ^ cs.length + Nat.ofDigits base rest.reverse =
      acc * base ^ (cs.length + 1) + Nat.ofDigits base (d :: rest).reverse := by
  rw [List.reverse_cons, Nat.ofDigits_append, Nat.ofDigits_singleton, List.length_reverse,
    spelled.length_eq]
  ring

theorem numberFrom?_eq_some_iff {base acc n : Nat} {cs : List Char} :
    numberFrom? base acc cs = some n ↔ ∃ digits, Digits base cs digits ∧
      n = acc * base ^ cs.length + Nat.ofDigits base digits.reverse := by
  induction cs generalizing acc with
  | nil =>
    constructor
    · rintro ⟨⟩
      exact ⟨[], rfl, by simp⟩
    · rintro ⟨digits, spelled, rfl⟩
      obtain rfl := List.map_eq_nil_iff.mp spelled.symm
      simp [numberFrom?]
  | cons c cs ih =>
    rw [numberFrom?, List.length_cons]
    cases value : digitValue? base c with
    | none => simp [digits_cons_iff, value]
    | some d =>
      refine ih.trans ⟨?_, ?_⟩
      · rintro ⟨rest, spelled, rfl⟩
        exact ⟨d :: rest, digits_cons_iff.mpr ⟨d, rest, rfl, value, spelled⟩,
          ofDigits_leading spelled⟩
      · rintro ⟨_, spelled, rfl⟩
        obtain ⟨_, rest, rfl, same, later⟩ := digits_cons_iff.mp spelled
        obtain rfl := Option.some.inj (value.symm.trans same)
        exact ⟨rest, later, (ofDigits_leading later).symm⟩

theorem number?_eq_some_iff {base n : Nat} {cs : List Char} :
    number? base cs = some n ↔ Spells base cs n := by
  cases cs with
  | nil => simp [number?, Spells]
  | cons c cs =>
    rw [number?, List.isEmpty_cons, if_neg Bool.false_ne_true, numberFrom?_eq_some_iff]
    simp [Spells]

theorem digitValue?_eq_none {c : Char} (other : hexValue? c = none) (base : Nat) :
    digitValue? base c = none := by
  rw [digitValue?, other]

theorem Spells.not_mem {base n : Nat} {cs : List Char} {c : Char} (spelled : Spells base cs n)
    (other : hexValue? c = none) : c ∉ cs := by
  obtain ⟨_, digits, same, _⟩ := spelled
  intro member
  have digit : none ∈ digits.map some :=
    same ▸ digitValue?_eq_none other base ▸ List.mem_map_of_mem member
  simp at digit

theorem digitValue?_lt {base d : Nat} {c : Char} (value : digitValue? base c = some d) :
    d < base := by
  unfold digitValue? at value
  split at value
  · split at value
    · obtain rfl := Option.some.inj value
      assumption
    · cases value
  · cases value

theorem Spells.lt {base n : Nat} {cs : List Char} (spelled : Spells base cs n) (big : 1 < base) :
    n < base ^ cs.length := by
  obtain ⟨_, digits, same, rfl⟩ := spelled
  have bound : ∀ d ∈ digits, d < base := by
    intro d member
    have digit : some d ∈ cs.map (digitValue? base) := same ▸ List.mem_map_of_mem member
    obtain ⟨c, _, value⟩ := List.mem_map.mp digit
    exact digitValue?_lt value
  have below := Nat.ofDigits_lt_base_pow_length (b := base) (l := digits.reverse) big
    fun d member => bound d (List.mem_reverse.mp member)
  rwa [List.length_reverse, Digits.length_eq same] at below

theorem hexValue?_eq_none_of_blank {c : Char} (blank : isBlank c = true) : hexValue? c = none := by
  simp only [isBlank, Bool.or_eq_true, Bool.and_eq_true, decide_eq_true_eq, beq_iff_eq] at blank
  have outside (low high : Char) (apart : c.toNat < low.toNat ∨ high.toNat < c.toNat) :
      ¬ (low ≤ c ∧ c ≤ high) := by
    rintro ⟨above, below⟩
    have above : low.toNat ≤ c.toNat := UInt32.le_iff_toNat_le.mp above
    have below : c.toNat ≤ high.toNat := UInt32.le_iff_toNat_le.mp below
    omega
  have digit : c.toNat < 48 ∨ 57 < c.toNat := by omega
  have lower : c.toNat < 97 ∨ 102 < c.toNat := by omega
  have upper : c.toNat < 65 ∨ 70 < c.toNat := by omega
  rw [hexValue?, if_neg (outside '0' '9' digit), if_neg (outside 'a' 'f' lower),
    if_neg (outside 'A' 'F' upper)]

/-- One decimal digit or more, and the number they spell. -/
structure DecimalText (cs : List Char) (n : Nat) : Prop where
  present : cs ≠ []
  digits : ∀ c ∈ cs, c.isDigit = true
  value : n = Nat.ofDigits 10 (cs.map fun c => c.toNat - '0'.toNat).reverse

theorem isDigit_iff {c : Char} : c.isDigit = true ↔ '0' ≤ c ∧ c ≤ '9' := by
  rw [Char.isDigit, Bool.and_eq_true, decide_eq_true_eq, decide_eq_true_eq]
  rfl

theorem digitValue?_ten_eq_some_iff {c : Char} {d : Nat} :
    digitValue? 10 c = some d ↔ c.isDigit = true ∧ d = c.toNat - '0'.toNat := by
  rw [isDigit_iff]
  unfold digitValue? hexValue?
  split_ifs with decimal
  · have high : c.toNat ≤ 57 := UInt32.le_iff_toNat_le.mp decimal.2
    have small : c.toNat - 48 < 10 := by omega
    simp [decimal, small, eq_comm]
  all_goals simp [decimal]

theorem spells_ten_iff {cs : List Char} {n : Nat} : Spells 10 cs n ↔ DecimalText cs n := by
  have spelled {cs : List Char} {digits : List Nat} : Digits 10 cs digits ↔
      (∀ c ∈ cs, c.isDigit = true) ∧ digits = cs.map fun c => c.toNat - '0'.toNat := by
    induction cs generalizing digits with
    | nil => simp [Digits]
    | cons c rest ih =>
      simp only [digits_cons_iff, digitValue?_ten_eq_some_iff, ih, List.forall_mem_cons,
        List.map_cons]
      constructor
      · rintro ⟨_, _, rfl, ⟨digit, rfl⟩, others, rfl⟩
        exact ⟨⟨digit, others⟩, rfl⟩
      · rintro ⟨⟨digit, others⟩, rfl⟩
        exact ⟨_, _, rfl, ⟨digit, rfl⟩, others, rfl⟩
  constructor
  · rintro ⟨present, digits, own, rfl⟩
    obtain ⟨each, rfl⟩ := spelled.mp own
    exact ⟨present, each, rfl⟩
  · rintro ⟨present, each, rfl⟩
    exact ⟨present, _, spelled.mpr ⟨each, rfl⟩, rfl⟩

end MapGate.Text
