import MapGate.Config.Environment
import MapGate.Proofs.List.Traverse
import MapGate.Proofs.Text.Listing
import MapGate.Proofs.Text.Numeral

/-!
Which settings the environment makes. A variable counts if it is set to a text that is not empty.
Loading fails exactly if one of the three numbers cannot be read, and the first of these is the
error. Otherwise every field is set by its own variable or not at all, and a list is read as it was
meant, however its items are set apart.
-/
namespace MapGate.Environment

variable {env : Environment} {name text : String}

/-- The variable is set, and not to the empty text. -/
def Sets (env : Environment) (name text : String) : Prop := env name = some text ∧ text ≠ ""

/-- A number, behind a plus sign or not. -/
inductive NumberText : List Char → Nat → Prop where
  | plain {cs : List Char} {n : Nat} (digits : Text.DecimalText cs n) : NumberText cs n
  | signed {cs : List Char} {n : Nat} (digits : Text.DecimalText cs n) : NumberText ('+' :: cs) n

/-- A variable that holds a number of so many bits. -/
structure NumberVariable where
  name : String
  width : Nat

/-- The variables that hold numbers, in the order in which they are read. -/
def numberVariables : List NumberVariable := [
  ⟨"GEOGUARD_BRUTE_FORCE_MIN_DELAY_MS", 64⟩,
  ⟨"GEOGUARD_BRUTE_FORCE_MAX_DELAY_MS", 64⟩,
  ⟨"GEOGUARD_BRUTE_FORCE_MAX_BLOCKED_THREADS", 32⟩]

/-- The variable is set to a text that is no number in its range. -/
def Unreadable (env : Environment) (v : NumberVariable) (text : String) : Prop :=
  env.Sets v.name text ∧ ¬ ∃ n, NumberText text.toList n ∧ n < 2 ^ v.width

/-- The error is that of the first variable that cannot be read. -/
inductive FirstUnreadable (env : Environment) : ConfigError → Prop where
  | number {before after : List NumberVariable} {v : NumberVariable} {text : String}
      (order : numberVariables = before ++ v :: after)
      (readable : ∀ u ∈ before, ∀ other, ¬ env.Unreadable u other)
      (unreadable : env.Unreadable v text) :
      FirstUnreadable env (.invalidNumber v.name v.width text)

/-- A field that is set exactly if its variable is, to a value of which the text tells. -/
structure SetBy {α : Type} (env : Environment) (name : String) (Tells : String → α → Prop)
    (field : Option α) : Prop where
  isSome_iff : field.isSome = true ↔ ∃ text, env.Sets name text
  value : ∀ text v, env.Sets name text → field = some v → Tells text v

/-- The flag is on for `1` and for `true` in any case of letters. -/
def TellsFlag (text : String) (flag : Bool) : Prop :=
  flag = true ↔ text = "1" ∨ text.toLower = "true"

/-- The text is a list of the items, which are trimmed texts without commas. -/
def TellsItems (text : String) (items : List String) : Prop :=
  (∀ item ∈ items, Text.IsItem item.toList) ∧ Text.Lists (items.map String.toList) text.toList

structure SetsBruteForce (env : Environment) (b : BruteForceLayer) : Prop where
  enabled : env.SetBy "GEOGUARD_BRUTE_FORCE_ENABLED" TellsFlag b.enabled
  minDelay : env.SetBy "GEOGUARD_BRUTE_FORCE_MIN_DELAY_MS"
    (fun text n => NumberText text.toList n.toNat) b.minDelay
  maxDelay : env.SetBy "GEOGUARD_BRUTE_FORCE_MAX_DELAY_MS"
    (fun text n => NumberText text.toList n.toNat) b.maxDelay
  maxBlocked : env.SetBy "GEOGUARD_BRUTE_FORCE_MAX_BLOCKED_THREADS"
    (fun text n => NumberText text.toList n.toNat) b.maxBlocked
  whitelist : env.SetBy "GEOGUARD_BRUTE_FORCE_WHITELIST" TellsItems b.whitelist

structure SetsLogging (env : Environment) (l : LoggingLayer) : Prop where
  level : env.SetBy "GEOGUARD_LOG_LEVEL" (fun text level => level = text) l.level
  json : env.SetBy "GEOGUARD_LOG_JSON" TellsFlag l.json

/-- A layer as the variables set it. Filter chains cannot be set there. -/
structure SetsLayer (env : Environment) (layer : ConfigLayer) : Prop where
  bruteForce : ∃ b, layer.bruteForce = some b ∧ env.SetsBruteForce b
  logging : ∃ l, layer.logging = some l ∧ env.SetsLogging l
  filterChains : layer.filterChains = none

theorem get?_eq_some_iff : env.get? name = some text ↔ env.Sets name text := by
  unfold get? Sets
  cases env name with
  | none => simp
  | some other =>
    simp only [String.isEmpty_iff]
    split <;> grind

theorem get?_isSome_iff : (env.get? name).isSome = true ↔ ∃ text, env.Sets name text := by
  simp only [Option.isSome_iff_exists, get?_eq_some_iff]

theorem numberText_iff {cs : List Char} {n : Nat} : NumberText cs n ↔
    Text.DecimalText cs n ∨ ∃ rest, cs = '+' :: rest ∧ Text.DecimalText rest n := by
  constructor
  · intro number
    cases number with
    | plain digits => exact .inl digits
    | signed digits => exact .inr ⟨_, rfl, digits⟩
  · rintro (digits | ⟨rest, rfl, digits⟩)
    · exact .plain digits
    · exact .signed digits

theorem decimalText_unsigned {rest : List Char} {n : Nat} :
    ¬ Text.DecimalText ('+' :: rest) n :=
  fun number => nomatch number.digits '+' List.mem_cons_self

section Reading

variable {width n : Nat}

theorem bounded_iff {m : Nat} :
    (if m < Nat.pow 2 width then some m else none) = some n ↔ some m = some n ∧ n < 2 ^ width := by
  rw [Nat.pow_eq, Option.ite_none_right_eq_some, and_comm, and_congr_right_iff]
  rintro ⟨⟩
  rfl

theorem readNumber?_signed {rest : List Char} (signed : text.toList = '+' :: rest) :
    readNumber? width text = some n ↔ Text.number? 10 rest = some n ∧ n < 2 ^ width := by
  simp only [readNumber?, signed]
  cases Text.number? 10 rest with
  | none => simp
  | some m => exact bounded_iff

theorem readNumber?_unsigned (unsigned : ∀ rest, text.toList ≠ '+' :: rest) :
    readNumber? width text = some n ↔ Text.number? 10 text.toList = some n ∧ n < 2 ^ width := by
  -- The pattern with the sign is ruled out by the hypothesis.
  simp only [readNumber?]
  cases Text.number? 10 text.toList with
  | none => simp
  | some m => exact bounded_iff

theorem readNumber?_eq_some_iff :
    readNumber? width text = some n ↔ NumberText text.toList n ∧ n < 2 ^ width := by
  rw [numberText_iff]
  by_cases sign : ∃ rest, text.toList = '+' :: rest
  · obtain ⟨rest, signed⟩ := sign
    rw [readNumber?_signed signed, Text.number?_eq_some_iff, Text.spells_ten_iff, signed]
    simp [decimalText_unsigned]
  · have unsigned : ¬ ∃ rest, text.toList = '+' :: rest ∧ Text.DecimalText rest n :=
      fun ⟨rest, signed, _⟩ => sign ⟨rest, signed⟩
    rw [readNumber?_unsigned (not_exists.mp sign), Text.number?_eq_some_iff, Text.spells_ten_iff]
    simp [unsigned]

end Reading

/-- What a number may be set to without an error. -/
theorem setBy_number {width : Nat} {field : Option Nat} (read : env.number? name width = .ok field) :
    env.SetBy name (fun text n => NumberText text.toList n ∧ n < 2 ^ width) field := by
  unfold number? at read
  split at read
  case h_1 unset =>
    obtain rfl := Except.ok.inj read
    constructor
    · rw [← get?_isSome_iff, unset]
      rfl
    · exact fun _ _ _ => nofun
  case h_2 text set =>
    split at read
    case h_1 n readable =>
      obtain rfl := Except.ok.inj read
      constructor
      · rw [← get?_isSome_iff, set]
        simp
      · intro other v same value
        obtain rfl := Option.some.inj (set.symm.trans (get?_eq_some_iff.mpr same))
        obtain rfl := Option.some.inj value
        exact readNumber?_eq_some_iff.mp readable
    case h_2 => cases read

theorem number?_eq_error_iff {v : NumberVariable} {e : ConfigError} :
    env.number? v.name v.width = .error e ↔
      ∃ text, env.Unreadable v text ∧ e = .invalidNumber v.name v.width text := by
  simp only [Unreadable, ← get?_eq_some_iff, ← readNumber?_eq_some_iff]
  unfold number?
  cases env.get? v.name with
  | none => simp
  | some text => cases read : readNumber? v.width text <;> simp [read, eq_comm]

theorem number?_ok_iff {v : NumberVariable} : (∃ field, env.number? v.name v.width = .ok field) ↔
    ∀ text, ¬ env.Unreadable v text := by
  constructor
  · rintro ⟨field, read⟩ text unreadable
    exact nomatch read.symm.trans (number?_eq_error_iff.mpr ⟨text, unreadable, rfl⟩)
  · intro readable
    cases read : env.number? v.name v.width with
    | ok field => exact ⟨field, rfl⟩
    | error e =>
      obtain ⟨text, unreadable, _⟩ := number?_eq_error_iff.mp read
      exact absurd unreadable (readable text)

theorem layer_eq_error_iff {e : ConfigError} : env.layer = .error e ↔
    numberVariables.mapM (fun v => env.number? v.name v.width) = .error e := by
  simp only [layer, bruteForce, numberVariables, List.mapM_cons, List.mapM_nil]
  cases env.number? "GEOGUARD_BRUTE_FORCE_MIN_DELAY_MS" 64 with
  | error => simp [bind, Except.bind]
  | ok =>
    cases env.number? "GEOGUARD_BRUTE_FORCE_MAX_DELAY_MS" 64 with
    | error => simp [bind, Except.bind]
    | ok =>
      cases env.number? "GEOGUARD_BRUTE_FORCE_MAX_BLOCKED_THREADS" 32 <;>
        simp [bind, Except.bind, pure, Except.pure]

theorem bruteForce_eq_ok {b : BruteForceLayer} (loaded : env.bruteForce = .ok b) :
    ∃ low high cap, env.number? "GEOGUARD_BRUTE_FORCE_MIN_DELAY_MS" 64 = .ok low ∧
      env.number? "GEOGUARD_BRUTE_FORCE_MAX_DELAY_MS" 64 = .ok high ∧
      env.number? "GEOGUARD_BRUTE_FORCE_MAX_BLOCKED_THREADS" 32 = .ok cap ∧
      b = {
        enabled := env.flag? "GEOGUARD_BRUTE_FORCE_ENABLED"
        minDelay := low.map UInt64.ofNat
        maxDelay := high.map UInt64.ofNat
        maxBlocked := cap.map UInt32.ofNat
        whitelist := env.list? "GEOGUARD_BRUTE_FORCE_WHITELIST" } := by
  obtain ⟨low, first, loaded⟩ := bind_eq_ok_iff.mp loaded
  obtain ⟨high, second, loaded⟩ := bind_eq_ok_iff.mp loaded
  obtain ⟨cap, third, loaded⟩ := bind_eq_ok_iff.mp loaded
  exact ⟨low, high, cap, first, second, third, (Except.ok.inj loaded).symm⟩

theorem layer_eq_ok {layer : ConfigLayer} (loaded : env.layer = .ok layer) :
    ∃ b, env.bruteForce = .ok b ∧
      layer = { bruteForce := some b, logging := some env.logging } := by
  obtain ⟨b, own, loaded⟩ := bind_eq_ok_iff.mp loaded
  exact ⟨b, own, (Except.ok.inj loaded).symm⟩

namespace SetBy

variable {α β : Type} {Tells : String → α → Prop}

theorem map {field : Option α} (set : env.SetBy name Tells field) {f : α → β}
    {TellsImage : String → β → Prop} (image : ∀ text v, Tells text v → TellsImage text (f v)) :
    env.SetBy name TellsImage (field.map f) := by
  constructor
  · rw [Option.isSome_map, set.isSome_iff]
  · intro text w own value
    obtain ⟨v, read, rfl⟩ := Option.map_eq_some_iff.mp value
    exact image text v (set.value text v own read)

theorem get : env.SetBy name (fun text value => value = text) (env.get? name) := by
  constructor
  · exact get?_isSome_iff
  · intro text value own read
    exact Option.some.inj (read.symm.trans (get?_eq_some_iff.mpr own))

theorem flag : env.SetBy name TellsFlag (env.flag? name) := by
  refine get.map ?_
  rintro _ text rfl
  have lower : text.toLower = text.map Char.toLower := rfl
  simp only [TellsFlag, readFlag, Bool.or_eq_true, beq_iff_eq, ← String.toList_inj, lower,
    String.toList_map]
  exact or_comm

theorem items : env.SetBy name TellsItems (env.list? name) := by
  refine get.map ?_
  rintro _ text rfl
  have read := Text.commaItems_eq_iff.mp (rfl : Text.commaItems text.toList = _)
  simpa [TellsItems, commaItems] using read

theorem word64 {field : Option Nat} (read : env.number? name 64 = .ok field) :
    env.SetBy name (fun text n => NumberText text.toList n.toNat) (field.map UInt64.ofNat) := by
  refine (setBy_number read).map ?_
  rintro text n ⟨number, small⟩
  rwa [UInt64.toNat_ofNat_of_lt' small]

theorem word32 {field : Option Nat} (read : env.number? name 32 = .ok field) :
    env.SetBy name (fun text n => NumberText text.toList n.toNat) (field.map UInt32.ofNat) := by
  refine (setBy_number read).map ?_
  rintro text n ⟨number, small⟩
  rwa [UInt32.toNat_ofNat_of_lt' small]

end SetBy

theorem setsLayer {layer : ConfigLayer} (loaded : env.layer = .ok layer) :
    env.SetsLayer layer := by
  obtain ⟨b, own, rfl⟩ := layer_eq_ok loaded
  obtain ⟨low, high, cap, first, second, third, rfl⟩ := bruteForce_eq_ok own
  constructor
  case bruteForce =>
    exact ⟨_, rfl, .flag, .word64 first, .word64 second, .word32 third, .items⟩
  case logging => exact ⟨_, rfl, .get, .flag⟩
  case filterChains => rfl

/-- How the variables decide what loading comes to. -/
structure DecidedByVariables (env : Environment) : Prop where
  fails_iff : (∃ e, env.layer = .error e) ↔ ∃ v ∈ numberVariables, ∃ text, env.Unreadable v text
  error_iff : ∀ e, env.layer = .error e ↔ env.FirstUnreadable e
  loaded : ∀ layer, env.layer = .ok layer → env.SetsLayer layer
  /-- Items may be set apart by commas, blanks and blank pieces in any way. -/
  whitelist : ∀ (items : List String) (text : String), items ≠ [] →
    (∀ item ∈ items, Text.IsItem item.toList) →
    Text.Lists (items.map String.toList) text.toList →
    env "GEOGUARD_BRUTE_FORCE_WHITELIST" = some text →
    ∀ layer, env.layer = .ok layer → ∃ b, layer.bruteForce = some b ∧ b.whitelist = some items

/-- The first number that cannot be read is the error of the environment, and without one every
field is set by its own variable. -/
theorem layer_decidedByVariables (env : Environment) : env.DecidedByVariables := by
  constructor
  case fails_iff =>
    simp only [layer_eq_error_iff, mapM_fails_iff, number?_eq_error_iff]
    refine exists_congr fun v => and_congr_right fun _ => ?_
    exact ⟨fun ⟨_, text, own, _⟩ => ⟨text, own⟩, fun ⟨text, own⟩ => ⟨_, text, own, rfl⟩⟩
  case error_iff =>
    intro e
    simp only [layer_eq_error_iff, mapM_error_iff, number?_ok_iff, number?_eq_error_iff]
    constructor
    · rintro ⟨before, v, after, order, readable, text, unreadable, rfl⟩
      exact .number order readable unreadable
    · rintro ⟨order, readable, unreadable⟩
      exact ⟨_, _, _, order, readable, _, unreadable, rfl⟩
  case loaded => exact fun layer => setsLayer
  case whitelist =>
    intro items text present each listed set layer loaded
    obtain ⟨b, own, rfl⟩ := layer_eq_ok loaded
    obtain ⟨low, high, cap, _, _, _, rfl⟩ := bruteForce_eq_ok own
    refine ⟨_, rfl, ?_⟩
    have read : Text.commaItems text.toList = items.map String.toList :=
      Text.commaItems_eq_iff.mpr ⟨by simpa using each, listed⟩
    have nonempty : text ≠ "" := by
      rintro rfl
      exact present (List.map_eq_nil_iff.mp read.symm)
    have own : env.get? "GEOGUARD_BRUTE_FORCE_WHITELIST" = some text :=
      get?_eq_some_iff.mpr ⟨set, nonempty⟩
    simp [list?, own, commaItems, read, Function.comp_def]

end MapGate.Environment
