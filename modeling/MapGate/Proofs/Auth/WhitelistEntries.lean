import MapGate.Proofs.Auth.Exemption

/-!
Which lists of entries make a whitelist: those in which every entry is blank or, trimmed, an address
or a network.
-/
namespace MapGate.Whitelist

/-- A text that is neither blank nor, trimmed, an address or a network. -/
def Offends (entry : String) : Prop :=
  blank entry = false ∧ Address.ofChars? (Text.trim entry.toList) = none ∧
    Network.ofChars? (Text.trim entry.toList) = none

instance (entry : String) : Decidable (Offends entry) :=
  inferInstanceAs (Decidable (_ ∧ _ = none ∧ _ = none))

theorem offends_iff {entry : String} : Offends entry ↔ blank entry = false ∧ ¬ Readable entry := by
  have address : Address.ofChars? (Text.trim entry.toList) = none ↔
      ¬ ∃ a, AddressText false (Text.trim entry.toList) a := by
    simp only [Option.eq_none_iff_forall_ne_some, ← Address.read?_eq_some_iff, not_exists]
    rfl
  have network : Network.ofChars? (Text.trim entry.toList) = none ↔
      ¬ ∃ n, NetworkText (Text.trim entry.toList) n := by
    simp only [Option.eq_none_iff_forall_ne_some, ← Network.ofChars?_eq_some_iff, not_exists]
  rw [Offends, address, network, ← not_or]
  rfl

theorem parse_fails_iff (entries : List String) :
    (∃ e, parse entries = .error e) ↔ ∃ entry ∈ entries, Offends entry := by
  have one_or_other : (∃ e, parse entries = .error e) ↔ ¬ ∃ w, parse entries = .ok w := by
    cases parse entries <;> simp
  rw [one_or_other, parse_succeeds_iff]
  simp [offends_iff]

end MapGate.Whitelist
