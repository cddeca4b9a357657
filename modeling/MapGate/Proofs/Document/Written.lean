import MapGate.Document.Record
import MapGate.Proofs.Json.WrittenText
import Mathlib.Data.List.Nodup

/-!
Documents that are read with what they were written with. A record is written as an object whose
keys are field names in order, each once; a field that it leaves out is read as its default.
-/
namespace MapGate

/-- Reading undoes writing, and what is written is plain. -/
structure Undoes {α : Type} (read? : Json → Option α) (write : α → Json) : Prop where
  plain : ∀ x, (write x).Plain
  document : ∀ x, read? (write x) = some x

/-- Reading gives every value back, from its document and from the text of it. -/
structure ReadsBack {α : Type} (write : α → Json) (read? : Json → Option α) : Prop where
  document : ∀ x, read? (write x) = some x
  text : ∀ x, (Json.parse? (write x).render).bind read? = some x

variable {α : Type} {write : α → Json} {read? : Json → Option α}

theorem Undoes.readsBack (undoes : Undoes read? write) : ReadsBack write read? where
  document := undoes.document
  text x := by
    rw [Json.parse?_render (undoes.plain x), Option.bind_some]
    exact undoes.document x

section Views

theorem view_integer {n : Nat} (small : n < UInt64.size) :
    Document.view (Json.ofNat n) = .integer n := by
  have own : (Numeral.ofNat n).integer? = some (n : Int) := by
    simp [Numeral.integer?, Numeral.ofNat, small]
  simp [Document.view, Json.ofNat, own]

theorem textMembers?_record (members : List (String × Json)) :
    Json.textMembers? (members.map fun (key, value) => (some key, value)) = some members := by
  induction members with
  | nil => rfl
  | cons m rest ih => rw [List.map_cons, Json.textMembers?, ih, Option.map_some]

theorem view_record (members : List (String × Json)) :
    Document.view (Json.record members) = .object members := by
  simp [Document.view, Json.record, textMembers?_record]

theorem view_ne_null {j : Json} (filled : j ≠ .null) : Document.view j ≠ .null := by
  cases j with
  | null => contradiction
  | bool | array => nofun
  | number n => cases own : n.integer? <;> simp [Document.view, own]
  | string s => cases s <;> nofun
  | object members => cases own : Json.textMembers? members <;> simp [Document.view, own]

end Views

section Values

theorem Undoes.text : Undoes Document.text? Json.ofString where
  plain := .text
  document _ := rfl

theorem Undoes.flag : Undoes Document.flag? Json.bool where
  plain := .bool
  document _ := rfl

theorem natBelow?_ofNat {limit n : Nat} (small : n < limit) (word : n < UInt64.size) :
    Document.natBelow? limit (Json.ofNat n) = some n := by
  rw [Document.natBelow?, view_integer word]
  simp [small]

theorem Undoes.word64 : Undoes Document.word64? Json.ofWord64 where
  plain n := .nat n.toNat
  document n := by
    rw [Document.word64?, Json.ofWord64, natBelow?_ofNat n.toNat_lt_size n.toNat_lt_size]
    simp

theorem Undoes.word32 : Undoes Document.word32? Json.ofWord32 where
  plain n := .nat n.toNat
  document n := by
    have small := n.toNat_lt_size
    rw [Document.word32?, Json.ofWord32, natBelow?_ofNat small (small.trans (by decide))]
    simp

theorem mapM_written (each : ∀ x, read? (write x) = some x) (xs : List α) :
    (xs.map write).mapM read? = some xs := by
  induction xs with
  | nil => rfl
  | cons x xs ih => simp [each, ih]

theorem Undoes.list (item : Undoes read? write) :
    Undoes (Document.list? read?) fun xs => Json.array (xs.map write) where
  plain xs := .array (by simpa using fun x _ => item.plain x)
  document := mapM_written item.document

theorem Undoes.texts : Undoes Document.texts? Json.strings := .list .text

theorem Undoes.nullable (value : Undoes read? write) (filled : ∀ x, write x ≠ .null) :
    Undoes (Document.nullable? read?) (Json.optional write) where
  plain
    | none => .null
    | some x => value.plain x
  document
    | none => rfl
    | some x => by
      rw [Json.optional, Document.nullable?]
      split
      next null => exact absurd null (view_ne_null (filled x))
      next => rw [value.document, Option.map_some]

end Values

namespace Record

variable {names : List String} {members : List (String × Json)}

theorem knownMembers?_of_distinct (distinct : (members.map Prod.fst).Nodup)
    (known : ∀ m ∈ members, m.1 ∈ names) : knownMembers? names members = some members := by
  induction members with
  | nil => rfl
  | cons m rest ih =>
    obtain ⟨own, others⟩ := List.forall_mem_cons.mp known
    obtain ⟨new, distinct⟩ := List.nodup_cons.mp distinct
    have once : (rest.any fun k => k.1 == m.1) = false := by
      rw [List.any_eq_false]
      intro k member same
      rw [beq_iff_eq] at same
      exact new (same ▸ List.mem_map_of_mem member)
    simp [knownMembers?, ih distinct others, own, once]

/-- An object whose keys are some of the field names, in order, is the record of its members. -/
theorem ofDocument?_record (distinct : names.Nodup)
    (ordered : (members.map Prod.fst).Sublist names) :
    ofDocument? names (Json.record members) = some ⟨false, members⟩ := by
  have known : ∀ m ∈ members, m.1 ∈ names := fun m member =>
    ordered.subset (List.mem_map_of_mem member)
  rw [ofDocument?, view_record]
  simp [knownMembers?_of_distinct (distinct.sublist ordered) known]

end Record

theorem Json.Plain.record {members : List (String × Json)} (each : ∀ m ∈ members, m.2.Plain) :
    (Json.record members).Plain :=
  .object (List.forall_mem_map.mpr fun _ _ => rfl) (List.forall_mem_map.mpr each)

theorem Undoes.record {names : List String} {members : α → List (String × Json)}
    {build : Record Json → Option α} (distinct : names.Nodup)
    (ordered : ∀ x, ((members x).map Prod.fst).Sublist names)
    (plain : ∀ x, ∀ m ∈ members x, m.2.Plain)
    (fields : ∀ x, build ⟨false, members x⟩ = some x) :
    Undoes (fun j => (Record.ofDocument? names j).bind build) fun x => .record (members x) where
  plain x := .record (plain x)
  document x := by
    rw [Record.ofDocument?_record distinct (ordered x), Option.bind_some]
    exact fields x

end MapGate
