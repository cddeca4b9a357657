import MapGate.Proofs.Text.Numeral

/-!
Numbers as they are written. The digits of a number spell it, and the first of several is not zero.
-/
namespace MapGate.Text

variable {base n : Nat}

theorem hexValue?_digitChar : ∀ d < 16, hexValue? (Nat.digitChar d) = some d := by decide

theorem digitValue?_digitChar (fits : base ≤ 16) {d : Nat} (small : d < base) :
    digitValue? base (Nat.digitChar d) = some d := by
  rw [digitValue?, hexValue?_digitChar d (Nat.lt_of_lt_of_le small fits)]
  exact if_pos small

theorem Spells.concat {cs : List Char} {c : Char} {d : Nat} (spelled : Spells base cs n)
    (digit : digitValue? base c = some d) : Spells base (cs ++ [c]) (n * base + d) := by
  obtain ⟨_, digits, own, rfl⟩ := spelled
  refine ⟨by simp, digits ++ [d], ?_, ?_⟩
  · rw [Digits, List.map_append, List.map_append, own, List.map_singleton, digit]
    rfl
  · rw [List.reverse_append, List.reverse_singleton, List.singleton_append, Nat.ofDigits_cons,
      Nat.add_comm, Nat.mul_comm]

theorem spells_toDigits (big : 1 < base) (fits : base ≤ 16) (n : Nat) :
    Spells base (Nat.toDigits base n) n := by
  induction n using Nat.strongRecOn with
  | ind n ih =>
    by_cases small : n < base
    · rw [Nat.toDigits_of_lt_base small]
      refine ⟨by simp, [n], ?_, by simp⟩
      rw [Digits, List.map_singleton, digitValue?_digitChar fits small]
      rfl
    · have less : n / base < n := Nat.div_lt_self (by omega) big
      have digit := digitValue?_digitChar fits (Nat.mod_lt n (by omega))
      have spelled := (ih _ less).concat digit
      rw [Nat.div_add_mod'] at spelled
      rwa [Nat.toDigits_of_base_le big (by omega)]

theorem head?_toDigits (big : 1 < base) (positive : 0 < n) :
    (Nat.toDigits base n).head? ≠ some '0' := by
  induction n using Nat.strongRecOn with
  | ind n ih =>
    by_cases small : n < base
    · rw [Nat.toDigits_of_lt_base small, List.head?_singleton, Ne, Option.some.injEq,
        Nat.digitChar_eq_zero]
      omega
    · have less : n / base < n := Nat.div_lt_self positive big
      have leading := ih _ less (Nat.div_pos (by omega) (by omega))
      rw [Nat.toDigits_of_base_le big (by omega)]
      obtain ⟨c, rest, first⟩ := List.exists_cons_of_ne_nil (Nat.toDigits_ne_nil (n := n / base))
      rw [first] at leading ⊢
      exact leading

/-- The only number that begins with a zero is zero. -/
theorem toDigits_plain (big : 1 < base) (n : Nat) :
    (Nat.toDigits base n).length = 1 ∨ (Nat.toDigits base n).head? ≠ some '0' := by
  rcases Nat.eq_zero_or_pos n with rfl | positive
  · exact .inl (by rw [Nat.toDigits_zero]; rfl)
  · exact .inr (head?_toDigits big positive)

end MapGate.Text
