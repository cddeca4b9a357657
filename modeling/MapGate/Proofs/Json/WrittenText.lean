import MapGate.Json.Printer
import MapGate.Json.Reader
import MapGate.Proofs.Text.WrittenDigits

/-!
JSON text as it is written. A document whose strings and keys are texts and whose numbers are
natural is read back from its text.
-/
namespace MapGate.Json

/-- A document of texts and natural numbers. -/
inductive Plain : Json → Prop where
  | null : Plain null
  | bool (value : Bool) : Plain (bool value)
  | nat (n : Nat) : Plain (ofNat n)
  | text (s : String) : Plain (ofString s)
  | array {items : List Json} (each : ∀ item ∈ items, Plain item) : Plain (array items)
  | object {members : List (Option String × Json)} (named : ∀ m ∈ members, m.1.isSome = true)
      (each : ∀ m ∈ members, Plain m.2) : Plain (object members)

/-- What may stand behind a value: nothing, a comma or a closing bracket. -/
def Closes (rest : List Char) : Prop := ∀ c ∈ rest.head?, c = ',' ∨ c = ']' ∨ c = '}'

/-- The text of a value is read as the value, with fuel for its length, wherever it may stand. -/
def Reads (j : Json) : Prop := ∀ fuel rest, j.render.toList.length ≤ fuel → Closes rest →
  readValue fuel (j.render.toList ++ rest) = some (j, rest)

section Strings

theorem not_surrogate (c : Char) :
    isHighSurrogate c.toNat = false ∧ isLowSurrogate c.toNat = false := by
  have valid : c.toNat < 0xD800 ∨ 0xDFFF < c.toNat ∧ c.toNat < 0x110000 := c.valid
  simp only [isHighSurrogate, isLowSurrogate, Bool.and_eq_false_iff, decide_eq_false_iff_not]
  omega

theorem joinUnits_toNat (cs : List Char) : joinUnits (cs.map Char.toNat) = some cs := by
  induction cs with
  | nil => rfl
  | cons c rest ih =>
    -- No character is a surrogate, so none is joined with the next one.
    obtain ⟨high, low⟩ := not_surrogate c
    cases rest with
    | nil => simp [joinUnits, high, low]
    | cons d rest =>
      rw [List.map_cons] at ih
      simp [joinUnits, high, low, ih]

/-- The units of a string that begins with another one. -/
def before (unit : Nat) : Option (List Nat × List Char) → Option (List Nat × List Char) :=
  Option.map fun (units, after) => (unit :: units, after)

theorem readUnits_code {p q r s : Char} {n : Nat} (code : quad? p q r s = some n)
    (rest : List Char) :
    readUnits ('\\' :: 'u' :: p :: q :: r :: s :: rest) = before n (readUnits rest) := by
  rw [readUnits, code]
  cases readUnits rest <;> rfl

theorem readUnits_letter {e c : Char} (other : e ≠ 'u') (letter : simpleEscape? e = some c)
    (rest : List Char) :
    readUnits ('\\' :: e :: rest) = before c.toNat (readUnits rest) := by
  rw [readUnits, letter]
  · cases readUnits rest <;> rfl
  · exact fun _ _ _ _ _ same => absurd same other

theorem readUnits_plain {c : Char} (quote : c ≠ '"') (backslash : c ≠ '\\')
    (printing : ¬ c.toNat < 0x20) (rest : List Char) :
    readUnits (c :: rest) = before c.toNat (readUnits rest) := by
  rw [readUnits, if_neg printing]
  · cases readUnits rest <;> rfl
  · exact quote
  · rintro _ _ _ _ _ rfl
    exact absurd rfl backslash
  · rintro _ _ rfl
    exact absurd rfl backslash

/-- The codes of control characters have four digits. -/
theorem quad?_padZeros : ∀ n < 0x20, ∃ p q r s,
    Text.padZeros 4 (Nat.toDigits 16 n) = [p, q, r, s] ∧ quad? p q r s = some n := by
  have codes : ∀ n < 0x20, (Text.padZeros 4 (Nat.toDigits 16 n)).length = 4 ∧
      Text.numberFrom? 16 0 (Text.padZeros 4 (Nat.toDigits 16 n)) = some n := by decide
  intro n small
  obtain ⟨four, value⟩ := codes n small
  obtain ⟨p, q, r, s, own⟩ : ∃ p q r s, Text.padZeros 4 (Nat.toDigits 16 n) = [p, q, r, s] := by
    match Text.padZeros 4 (Nat.toDigits 16 n), four with
    | [p, q, r, s], _ => exact ⟨p, q, r, s, rfl⟩
  exact ⟨p, q, r, s, own, by rw [quad?, ← own, value]⟩

theorem readUnits_escapeChar (c : Char) (rest : List Char) :
    readUnits (escapeChar c ++ rest) = before c.toNat (readUnits rest) := by
  unfold escapeChar
  split_ifs with quote backslash control
  · subst quote
    exact readUnits_letter (by decide) rfl rest
  · subst backslash
    exact readUnits_letter (by decide) rfl rest
  · obtain ⟨p, q, r, s, own, code⟩ := quad?_padZeros c.toNat control
    rw [own]
    exact readUnits_code code rest
  · exact readUnits_plain quote backslash control rest

theorem readUnits_escaped (cs rest : List Char) :
    readUnits (cs.flatMap escapeChar ++ '"' :: rest) = some (cs.map Char.toNat, rest) := by
  induction cs with
  | nil => rfl
  | cons c cs ih =>
    rw [List.flatMap_cons, List.append_assoc, readUnits_escapeChar, ih]
    rfl

theorem toList_quoted (s : String) :
    (quoted s).toList = '"' :: (s.toList.flatMap escapeChar ++ ['"']) := by
  simp [quoted]

theorem readString_escaped (s : String) (rest : List Char) :
    readString (s.toList.flatMap escapeChar ++ '"' :: rest) = some (some s, rest) := by
  rw [readString, readUnits_escaped]
  simp [joinUnits_toNat]

end Strings

section Numbers

variable {n : Nat} {rest : List Char}

theorem toList_render_nat : (ofNat n).render.toList = Nat.toDigits 10 n := by
  simp [ofNat, render, Numeral.ofNat, Numeral.render]

/-- The digits of a number end where it ends. -/
theorem spanDigits_toDigits (closes : Closes rest) :
    Text.spanDigits 10 (Nat.toDigits 10 n ++ rest) = (Nat.toDigits 10 n, rest) := by
  have digits : ∀ c ∈ Nat.toDigits 10 n, (Text.digitValue? 10 c).isSome = true := by
    intro c member
    have digit := Nat.isDigit_of_mem_toDigits (by decide) (by decide) member
    rw [Text.digitValue?_ten_eq_some_iff.mpr ⟨digit, rfl⟩]
    rfl
  have stop : ∀ c ∈ rest.head?, (Text.digitValue? 10 c).isSome = false := by
    intro c first
    rcases closes c first with rfl | rfl | rfl <;> rfl
  rw [Text.spanDigits, List.takeWhile_append_of_pos digits, List.dropWhile_append_of_pos digits]
  cases rest with
  | nil => simp
  | cons c rest => simp [stop c rfl]

theorem readMagnitude_toDigits (closes : Closes rest) :
    readMagnitude (Nat.toDigits 10 n ++ rest) = some (n, 0, true, rest) := by
  have value : Text.numberFrom? 10 0 (Nat.toDigits 10 n) = some n := by
    have spelled := Text.number?_eq_some_iff.mpr
      (Text.spells_toDigits (by decide) (by decide) n : Text.Spells 10 _ n)
    rwa [Text.number?, if_neg (by simp)] at spelled
  have form : ((Nat.toDigits 10 n).isEmpty || ((Nat.toDigits 10 n).head? == some '0' &&
      (Nat.toDigits 10 n).length ≠ 1)) = false := by
    have plain : (Nat.toDigits 10 n).length = 1 ∨ (Nat.toDigits 10 n).head? ≠ some '0' :=
      Text.toDigits_plain (by decide) n
    rcases plain with one | leading
    · simp [one]
    · simp [leading]
  unfold readMagnitude
  rw [spanDigits_toDigits closes]
  dsimp only
  rw [form]
  cases rest with
  | nil => simp [value]
  | cons c rest =>
    rcases closes c rfl with rfl | rfl | rfl <;> simp [value]

theorem toDigits_eq_cons (n : Nat) :
    ∃ c tail, Nat.toDigits 10 n = c :: tail ∧ c.isDigit = true := by
  obtain ⟨c, tail, own⟩ := List.exists_cons_of_ne_nil (Nat.toDigits_ne_nil (n := n) (b := 10))
  have digit : c.isDigit = true :=
    Nat.isDigit_of_mem_toDigits (by decide) (by decide) (own ▸ List.mem_cons_self)
  exact ⟨c, tail, own, digit⟩

theorem readNumber_nat (closes : Closes rest) :
    readNumber (Nat.toDigits 10 n ++ rest) = some (ofNat n, rest) := by
  have magnitude := readMagnitude_toDigits (n := n) closes
  obtain ⟨c, tail, own, digit⟩ := toDigits_eq_cons n
  have unsigned : c ≠ '-' := by
    rintro rfl
    exact absurd digit (by decide)
  rw [own, List.cons_append] at magnitude ⊢
  simp [readNumber, magnitude, unsigned, ofNat, Numeral.ofNat]

end Numbers

section Values

variable {rest : List Char} {fuel : Nat}

theorem skipGap_cons {c : Char} (solid : isGap c = false) : skipGap (c :: rest) = c :: rest := by
  simp [skipGap, solid]

theorem isGap_of_isDigit {c : Char} (digit : c.isDigit = true) : isGap c = false := by
  rw [Bool.eq_false_iff]
  intro gap
  have blank : ((c = ' ' ∨ c = '\n') ∨ c = '\t') ∨ c = '\r' := by simpa [isGap] using gap
  rcases blank with ((rfl | rfl) | rfl) | rfl <;> exact absurd digit (by decide)

theorem readValue_digit {c : Char} (digit : c.isDigit = true) :
    readValue (fuel + 1) (c :: rest) = readNumber (c :: rest) := by
  have other : ∀ d : Char, d.isDigit = false → c ≠ d := by
    rintro d no rfl
    exact Bool.false_ne_true (no.symm.trans digit)
  rw [readValue, skipGap_cons (isGap_of_isDigit digit)]
  split
  case h_7 => rfl
  all_goals
    rename_i same
    exact absurd (List.cons.inj same).1 (other _ (by decide))

theorem Reads.nat (n : Nat) : Reads (ofNat n) := by
  intro fuel rest enough closes
  obtain ⟨c, tail, own, digit⟩ := toDigits_eq_cons n
  have number := readNumber_nat (n := n) closes
  rw [toList_render_nat] at enough ⊢
  rw [own] at enough number ⊢
  cases fuel with
  | zero => cases enough
  | succ fuel =>
    rw [List.cons_append] at number ⊢
    rw [readValue_digit digit, number]

theorem Reads.null : Reads null := by
  intro fuel rest enough _
  cases fuel with
  | zero => cases enough
  | succ fuel => rfl

theorem Reads.bool (value : Bool) : Reads (bool value) := by
  intro fuel rest enough _
  cases fuel with
  | zero => cases value <;> cases enough
  | succ fuel => cases value <;> rfl

theorem Reads.text (s : String) : Reads (ofString s) := by
  intro fuel rest enough _
  rw [ofString, render, toList_quoted] at enough ⊢
  cases fuel with
  | zero => cases enough
  | succ fuel =>
    rw [List.cons_append, List.append_assoc, List.singleton_append, readValue,
      skipGap_cons (by decide)]
    simp only [readString_escaped]

/-- A value is never taken for a gap or a closing bracket. -/
def Begins (cs : List Char) : Prop := ∃ c tail, cs = c :: tail ∧ isGap c = false ∧ c ≠ ']'

theorem Plain.begins {j : Json} (plain : Plain j) : Begins j.render.toList := by
  cases plain with
  | null => exact ⟨'n', _, rfl, by decide, by decide⟩
  | bool value =>
    cases value
    · exact ⟨'f', _, rfl, by decide, by decide⟩
    · exact ⟨'t', _, rfl, by decide, by decide⟩
  | nat n =>
    obtain ⟨c, tail, own, digit⟩ := toDigits_eq_cons n
    refine ⟨c, tail, toList_render_nat.trans own, isGap_of_isDigit digit, ?_⟩
    rintro rfl
    exact absurd digit (by decide)
  | text s =>
    exact ⟨'"', _, toList_quoted s, by decide, by decide⟩
  | array each =>
    exact ⟨'[', _, by rw [render, String.append_assoc, String.toList_append]; rfl,
      by decide, by decide⟩
  | object named each =>
    exact ⟨'{', _, by rw [render, String.append_assoc, String.toList_append]; rfl,
      by decide, by decide⟩

theorem closes_comma : Closes (',' :: rest) := by
  rintro c ⟨⟩
  exact .inl rfl

theorem closes_bracket : Closes (']' :: rest) := by
  rintro c ⟨⟩
  exact .inr (.inl rfl)

theorem closes_brace : Closes ('}' :: rest) := by
  rintro c ⟨⟩
  exact .inr (.inr rfl)

theorem toList_renderItems_cons (item next : Json) (more : List Json) :
    (renderItems (item :: next :: more)).toList =
      item.render.toList ++ ',' :: (renderItems (next :: more)).toList := by
  simp [renderItems]

theorem readItems_rendered {items : List Json} (each : ∀ item ∈ items, Reads item)
    (listed : items ≠ []) (enough : (renderItems items).toList.length < fuel) :
    readItems fuel ((renderItems items).toList ++ ']' :: rest) = some (items, rest) := by
  -- Each item costs one unit of fuel and has at least a comma, so that the fuel stays enough.
  induction items generalizing fuel with
  | nil => contradiction
  | cons item more ih =>
    obtain ⟨first, others⟩ := List.forall_mem_cons.mp each
    cases fuel with
    | zero => cases enough
    | succ fuel =>
      cases more with
      | nil =>
        rw [renderItems] at enough ⊢
        rw [readItems, first fuel _ (by omega) closes_bracket]
        rfl
      | cons next more =>
        rw [toList_renderItems_cons, List.length_append, List.length_cons] at enough
        rw [toList_renderItems_cons, List.append_assoc, List.cons_append, readItems,
          first fuel _ (by omega) closes_comma]
        simp (disch := decide) only [skipGap_cons]
        rw [ih others (by simp) (by omega)]

theorem readValue_array {cs : List Char} (begins : Begins cs) :
    readValue (fuel + 1) ('[' :: cs) =
      (readItems fuel cs).map fun (items, after) => (array items, after) := by
  obtain ⟨c, tail, rfl, solid, other⟩ := begins
  rw [readValue, skipGap_cons (by decide)]
  simp only [skipGap_cons solid]
  split
  next same => exact absurd (List.cons.inj same).1 other
  next => cases readItems fuel (c :: tail) <;> rfl

theorem begins_renderItems {item : Json} (begins : Begins item.render.toList) (more : List Json) :
    Begins ((renderItems (item :: more)).toList ++ rest) := by
  obtain ⟨c, tail, own, solid⟩ := begins
  cases more with
  | nil => exact ⟨c, _, by rw [renderItems, own, List.cons_append], solid⟩
  | cons next more =>
    exact ⟨c, _, by rw [toList_renderItems_cons, own, List.append_assoc, List.cons_append], solid⟩

theorem Reads.array {items : List Json} (each : ∀ item ∈ items, Reads item)
    (begins : ∀ item ∈ items, Begins item.render.toList) : Reads (array items) := by
  intro fuel rest enough _
  have shape : (Json.array items).render.toList =
      '[' :: ((renderItems items).toList ++ [']']) := by
    simp [render]
  rw [shape] at enough ⊢
  cases fuel with
  | zero => cases enough
  | succ fuel =>
    rw [List.cons_append, List.append_assoc, List.singleton_append]
    cases items with
    | nil => rfl
    | cons item more =>
      rw [List.length_cons, List.length_append, List.length_singleton] at enough
      rw [readValue_array (begins_renderItems (begins item List.mem_cons_self) more),
        readItems_rendered each (by simp) (by omega)]
      rfl

theorem toList_renderMembers_singleton (key : String) (value : Json) :
    (renderMembers [(some key, value)]).toList =
      '"' :: (key.toList.flatMap escapeChar ++ '"' :: ':' :: value.render.toList) := by
  simp [renderMembers, toList_quoted]

theorem toList_renderMembers_cons (key : String) (value : Json)
    (next : Option String × Json) (more : List (Option String × Json)) :
    (renderMembers ((some key, value) :: next :: more)).toList =
      '"' :: (key.toList.flatMap escapeChar ++
        '"' :: ':' :: (value.render.toList ++ ',' :: (renderMembers (next :: more)).toList)) := by
  simp [renderMembers, toList_quoted]

theorem readMembers_rendered {members : List (Option String × Json)}
    (named : ∀ m ∈ members, m.1.isSome = true) (each : ∀ m ∈ members, Reads m.2)
    (listed : members ≠ []) (enough : (renderMembers members).toList.length < fuel) :
    readMembers fuel ((renderMembers members).toList ++ '}' :: rest) = some (members, rest) := by
  induction members generalizing fuel with
  | nil => contradiction
  | cons m more ih =>
    obtain ⟨name, value⟩ := m
    obtain ⟨own, others⟩ := List.forall_mem_cons.mp named
    obtain ⟨key, rfl⟩ := Option.isSome_iff_exists.mp own
    obtain ⟨first, following⟩ := List.forall_mem_cons.mp each
    have reads : Reads value := first
    cases fuel with
    | zero => cases enough
    | succ fuel =>
      cases more with
      | nil =>
        rw [toList_renderMembers_singleton] at enough ⊢
        simp only [List.length_cons, List.length_append] at enough
        simp (disch := decide) only [List.cons_append, List.append_assoc, readMembers,
          skipGap_cons, readString_escaped]
        rw [reads fuel _ (by omega) closes_brace]
        rfl
      | cons next more =>
        rw [toList_renderMembers_cons] at enough ⊢
        simp only [List.length_cons, List.length_append] at enough
        simp (disch := decide) only [List.cons_append, List.append_assoc, readMembers,
          skipGap_cons, readString_escaped]
        rw [reads fuel _ (by omega) closes_comma]
        simp (disch := decide) only [skipGap_cons]
        rw [ih others following (by simp) (by omega)]

theorem readValue_object {cs : List Char} :
    readValue (fuel + 1) ('{' :: '"' :: cs) =
      (readMembers fuel ('"' :: cs)).map fun (members, after) => (object members, after) := by
  rw [readValue, skipGap_cons (by decide)]
  simp (disch := decide) only [skipGap_cons]
  cases readMembers fuel ('"' :: cs) <;> rfl

theorem head?_renderMembers {m : Option String × Json} (more : List (Option String × Json)) :
    (renderMembers (m :: more)).toList.head? = some '"' := by
  cases more <;> simp [renderMembers, toList_quoted]

theorem Reads.object {members : List (Option String × Json)}
    (named : ∀ m ∈ members, m.1.isSome = true) (each : ∀ m ∈ members, Reads m.2) :
    Reads (object members) := by
  intro fuel rest enough _
  have shape : (Json.object members).render.toList =
      '{' :: ((renderMembers members).toList ++ ['}']) := by
    simp [render]
  rw [shape] at enough ⊢
  cases fuel with
  | zero => cases enough
  | succ fuel =>
    rw [List.cons_append, List.append_assoc, List.singleton_append]
    cases members with
    | nil => rfl
    | cons m more =>
      obtain ⟨tail, own⟩ := List.head?_eq_some_iff.mp (head?_renderMembers (m := m) more)
      rw [List.length_cons, List.length_append, List.length_singleton] at enough
      have inner : readMembers fuel ((renderMembers (m :: more)).toList ++ '}' :: rest) =
          some (m :: more, rest) := readMembers_rendered named each (by simp) (by omega)
      rw [own, List.cons_append] at inner ⊢
      rw [readValue_object, inner]
      rfl

end Values

theorem Plain.reads {j : Json} (plain : Plain j) : Reads j := by
  induction plain with
  | null => exact .null
  | bool value => exact .bool value
  | nat n => exact .nat n
  | text s => exact .text s
  | array each ih => exact .array ih fun item member => (each item member).begins
  | object named _ ih => exact .object named ih

/-- A plain document is read back from its text. -/
theorem parse?_render {j : Json} (plain : Plain j) : parse? j.render = some j := by
  have own := plain.reads (j.render.toList.length + 1) [] (Nat.le_succ _) nofun
  rw [List.append_nil] at own
  unfold parse?
  simp only [own]
  rfl

end MapGate.Json
