import MapGate.Json.Value

/-!
Equality of JSON values is an equivalence: two values are equal exactly when they are identical once
every zero among their floats has lost its sign.
-/
namespace MapGate

/-- A number without the sign of a zero. -/
def Binary64.plain (x : Binary64) : Binary64 :=
  { x with negative := x.negative && x.significand != 0 }

theorem Binary64.same_iff (x y : Binary64) : x.same y = true ↔ x.plain = y.plain := by
  obtain ⟨negative, significand, scale⟩ := x
  obtain ⟨negative', significand', scale'⟩ := y
  by_cases equal : significand = significand'
  · subst equal
    by_cases zero : significand = 0
    · simp [same, plain, zero]
    · have nonzero : (significand != 0) = true := by simpa using zero
      simp [same, plain, zero, nonzero, and_comm]
  · simp [same, plain, equal]

namespace Value

mutual

def plain : Value → Value
  | float x => float x.plain
  | array items => array (plainItems items)
  | object members => object (plainMembers members)
  | value => value

def plainItems : List Value → List Value
  | [] => []
  | item :: rest => plain item :: plainItems rest

def plainMembers : List (String × Value) → List (String × Value)
  | [] => []
  | (key, value) :: rest => (key, plain value) :: plainMembers rest

end

mutual

theorem same_iff (a b : Value) : a.same b = true ↔ a.plain = b.plain := by
  cases a with
  | null | bool | integer | string => cases b <;> simp [same, plain]
  | float x =>
    cases b with
    | float y => simp [same, plain, Binary64.same_iff]
    | _ => simp [same, plain]
  | array items =>
    cases b with
    | array others => simp [same, plain, sameItems_iff items others]
    | _ => simp [same, plain]
  | object members =>
    cases b with
    | object others => simp [same, plain, sameMembers_iff members others]
    | _ => simp [same, plain]

theorem sameItems_iff (as bs : List Value) :
    sameItems as bs = true ↔ plainItems as = plainItems bs := by
  cases as with
  | nil => cases bs <;> simp [sameItems, plainItems]
  | cons a as =>
    cases bs with
    | nil => simp [sameItems, plainItems]
    | cons b bs => simp [sameItems, plainItems, same_iff a b, sameItems_iff as bs]

theorem sameMembers_iff (as bs : List (String × Value)) :
    sameMembers as bs = true ↔ plainMembers as = plainMembers bs := by
  cases as with
  | nil => cases bs <;> simp [sameMembers, plainMembers]
  | cons a as =>
    obtain ⟨key, value⟩ := a
    cases bs with
    | nil => simp [sameMembers, plainMembers]
    | cons b bs =>
      obtain ⟨other, second⟩ := b
      simp [sameMembers, plainMembers, same_iff value second, sameMembers_iff as bs, and_assoc]

end

theorem same_equivalence : Equivalence fun a b : Value => a.same b = true where
  refl a := (same_iff a a).mpr rfl
  symm {a b} ab := (same_iff b a).mpr ((same_iff a b).mp ab).symm
  trans {a b c} ab bc := (same_iff a c).mpr (((same_iff a b).mp ab).trans ((same_iff b c).mp bc))

end Value
end MapGate
