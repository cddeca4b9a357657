import Mathlib.Data.List.Nodup
import MapGate.Proofs.Config.AcceptedChains

/-!
The first violation of a configuration layer. Finalizing accepts a layer exactly if its delays, with
the defaults where it sets none, are in order, the names of its chains are neither blank nor
repeated, and its enabled chains have an entry that is not blank. Otherwise the error is the first
thing that is wrong: the delays come before the chains, the chains come in their order, and of a
chain its name comes before its patterns.
-/
namespace MapGate

/-- Chains that may stand together. -/
structure SoundChains (chains : List FilterChain) : Prop where
  named : ∀ c ∈ chains, blank c.name = false
  distinct : (chains.map FilterChain.name).Nodup
  patterned : ∀ c ∈ chains, c.disabled = false → ∃ entry ∈ c.patterns, blank entry = false

/-- What is wrong with a chain behind others. -/
inductive FilterChain.Offends (before : List FilterChain) (c : FilterChain) :
    Violation → Prop where
  | unnamed (empty : blank c.name = true) : Offends before c .emptyChainName
  | duplicate (named : blank c.name = false) (used : ∃ earlier ∈ before, earlier.name = c.name) :
      Offends before c (.duplicateChainName c.name)
  | patternless (named : blank c.name = false) (fresh : ∀ earlier ∈ before, earlier.name ≠ c.name)
      (enabled : c.disabled = false) (bare : ∀ entry ∈ c.patterns, blank entry = true) :
      Offends before c (.noPatterns c.name)

namespace ConfigLayer

def minDelay (layer : ConfigLayer) : UInt64 := (layer.bruteForce.bind (·.minDelay)).getD 1000

def maxDelay (layer : ConfigLayer) : UInt64 := (layer.bruteForce.bind (·.maxDelay)).getD 5000

def chains (layer : ConfigLayer) : List FilterChain := layer.filterChains.getD []

structure Acceptable (layer : ConfigLayer) : Prop where
  delays : layer.minDelay ≤ layer.maxDelay
  chains : SoundChains layer.chains

inductive FirstViolation (layer : ConfigLayer) : Violation → Prop where
  | delays (reversed : layer.maxDelay < layer.minDelay) :
      FirstViolation layer (.delaysReversed layer.minDelay layer.maxDelay)
  | chain {before after : List FilterChain} {c : FilterChain} {v : Violation}
      (delays : layer.minDelay ≤ layer.maxDelay) (split : layer.chains = before ++ c :: after)
      (sound : SoundChains before) (offends : c.Offends before v) : FirstViolation layer v

end ConfigLayer

/-- The names of chains that have been passed, the last one first. -/
def passedNames (passed : List FilterChain) : List String := (passed.map FilterChain.name).reverse

theorem mem_passedNames {passed : List FilterChain} {name : String} :
    name ∈ passedNames passed ↔ ∃ earlier ∈ passed, earlier.name = name := by
  simp [passedNames]

theorem passedNames_concat (passed : List FilterChain) (c : FilterChain) :
    passedNames (passed ++ [c]) = c.name :: passedNames passed := by
  simp [passedNames]

theorem FilterChain.violation?_eq_some_iff {passed : List FilterChain} {c : FilterChain}
    {v : Violation} : c.violation? (passedNames passed) = some v ↔ c.Offends passed v := by
  unfold violation?
  constructor
  · intro found
    split at found
    case isTrue empty =>
      obtain rfl := Option.some.inj found
      exact .unnamed empty
    case isFalse named =>
      rw [Bool.not_eq_true] at named
      split at found
      case isTrue used =>
        obtain rfl := Option.some.inj found
        exact .duplicate named (mem_passedNames.mp (List.contains_iff_mem.mp used))
      case isFalse fresh =>
        split at found
        case isTrue bare =>
          obtain rfl := Option.some.inj found
          rw [Bool.and_eq_true, Bool.not_eq_true', List.all_eq_true] at bare
          refine .patternless named ?_ bare.1 bare.2
          intro earlier member same
          exact fresh (List.contains_iff_mem.mpr (mem_passedNames.mpr ⟨earlier, member, same⟩))
        case isFalse => cases found
  · intro offends
    cases offends with
    | unnamed empty => rw [if_pos empty]
    | duplicate named used =>
      have listed := List.contains_iff_mem.mpr (mem_passedNames.mpr used)
      rw [named, if_neg Bool.false_ne_true, if_pos listed]
    | patternless named fresh enabled bare =>
      have unlisted : ¬ (passedNames passed).contains c.name = true := by
        rw [List.contains_iff_mem, mem_passedNames]
        intro used
        obtain ⟨earlier, member, same⟩ := used
        exact fresh earlier member same
      have patternless : (!c.disabled && c.patterns.all blank) = true := by
        rw [enabled, List.all_eq_true.mpr bare]
        rfl
      rw [named, if_neg Bool.false_ne_true, if_neg unlisted, if_pos patternless]

namespace SoundChains

variable {passed chains : List FilterChain} {c : FilterChain}

theorem nil : SoundChains [] where
  named := nofun
  distinct := List.nodup_nil
  patterned := nofun

theorem before (sound : SoundChains (passed ++ chains)) : SoundChains passed where
  named c member := sound.named c (List.mem_append_left _ member)
  distinct := by
    have distinct := sound.distinct
    rw [List.map_append] at distinct
    exact distinct.of_append_left
  patterned c member := sound.patterned c (List.mem_append_left _ member)

theorem concat_iff : SoundChains (passed ++ [c]) ↔
    SoundChains passed ∧ c.violation? (passedNames passed) = none := by
  have distinct : ((passed ++ [c]).map FilterChain.name).Nodup ↔
      (passed.map FilterChain.name).Nodup ∧ c.name ∉ passedNames passed := by
    rw [← List.nodup_reverse, ← passedNames, passedNames_concat, List.nodup_cons, passedNames,
      List.nodup_reverse, and_comm]
  rw [FilterChain.violation?_eq_none_iff]
  constructor
  · intro sound
    obtain ⟨_, fresh⟩ := distinct.mp sound.distinct
    have last : c ∈ passed ++ [c] := List.mem_append_right _ (List.mem_singleton_self c)
    exact ⟨sound.before, sound.named c last, fresh, sound.patterned c last⟩
  · intro both
    obtain ⟨sound, named, fresh, patterned⟩ := both
    constructor
    case named => exact List.forall_mem_append.mpr ⟨sound.named, by simpa using named⟩
    case distinct => exact distinct.mpr ⟨sound.distinct, fresh⟩
    case patterned => exact List.forall_mem_append.mpr ⟨sound.patterned, by simpa using patterned⟩

end SoundChains

theorem chainsViolation?_eq_none_iff {passed rest : List FilterChain}
    (sound : SoundChains passed) :
    chainsViolation? (passedNames passed) rest = none ↔ SoundChains (passed ++ rest) := by
  induction rest generalizing passed with
  | nil => simpa [chainsViolation?] using sound
  | cons c rest ih =>
    rw [chainsViolation?, List.append_cons]
    cases found : c.violation? (passedNames passed) with
    | none =>
      rw [← passedNames_concat]
      exact ih (SoundChains.concat_iff.mpr ⟨sound, found⟩)
    | some v =>
      -- an offence stays one, whatever chains come after it
      refine iff_of_false (by simp) ?_
      intro together
      have fine := (SoundChains.concat_iff.mp together.before).2
      rw [found] at fine
      contradiction

/-- Sound chains in front of a list are passed over. -/
theorem chainsViolation?_append {passed before : List FilterChain}
    (sound : SoundChains (passed ++ before)) (rest : List FilterChain) :
    chainsViolation? (passedNames passed) (before ++ rest) =
      chainsViolation? (passedNames (passed ++ before)) rest := by
  induction before generalizing passed with
  | nil => rw [List.nil_append, List.append_nil]
  | cons c before ih =>
    rw [List.append_cons] at sound ⊢
    have fine := (SoundChains.concat_iff.mp sound.before).2
    rw [List.cons_append, chainsViolation?, fine]
    dsimp only
    rw [← passedNames_concat]
    exact ih sound

theorem chainsViolation?_eq_some {passed rest : List FilterChain} {v : Violation}
    (sound : SoundChains passed) (found : chainsViolation? (passedNames passed) rest = some v) :
    ∃ before c after, rest = before ++ c :: after ∧ SoundChains (passed ++ before) ∧
      c.Offends (passed ++ before) v := by
  induction rest generalizing passed with
  | nil => cases found
  | cons c rest ih =>
    rw [chainsViolation?] at found
    cases own : c.violation? (passedNames passed) with
    | some w =>
      rw [own] at found
      obtain rfl := Option.some.inj found
      have offends := FilterChain.violation?_eq_some_iff.mp own
      exact ⟨[], c, rest, rfl, by rwa [List.append_nil], by rwa [List.append_nil]⟩
    | none =>
      rw [own] at found
      dsimp only at found
      rw [← passedNames_concat] at found
      have next := SoundChains.concat_iff.mpr ⟨sound, own⟩
      obtain ⟨before, d, after, split, fine, offends⟩ := ih next found
      rw [← List.append_cons] at fine offends
      exact ⟨c :: before, d, after, by rw [split, List.cons_append], fine, offends⟩

namespace ConfigLayer

theorem delays_complete (layer : ConfigLayer) :
    layer.complete.bruteForce.minDelay = layer.minDelay ∧
      layer.complete.bruteForce.maxDelay = layer.maxDelay := by
  unfold complete minDelay maxDelay
  cases layer.bruteForce <;> exact ⟨rfl, rfl⟩

theorem violation?_eq_none_iff {layer : ConfigLayer} :
    layer.complete.violation? = none ↔ layer.Acceptable := by
  obtain ⟨min, max⟩ := layer.delays_complete
  have chains : chainsViolation? [] layer.complete.filterChains = none ↔
      SoundChains layer.chains := @chainsViolation?_eq_none_iff [] _ .nil
  rw [Config.violation?, Option.or_eq_none_iff, chains, BruteForceConfig.violation?, min, max]
  constructor
  · intro both
    obtain ⟨ordered, sound⟩ := both
    exact ⟨UInt64.not_lt.mp (by simpa using ordered), sound⟩
  · intro acceptable
    exact ⟨if_neg (UInt64.not_lt.mpr acceptable.delays), acceptable.chains⟩

theorem violation?_eq_some_iff {layer : ConfigLayer} {v : Violation} :
    layer.complete.violation? = some v ↔ layer.FirstViolation v := by
  obtain ⟨min, max⟩ := layer.delays_complete
  rw [Config.violation?, BruteForceConfig.violation?, min, max]
  by_cases reversed : layer.maxDelay < layer.minDelay
  · rw [if_pos reversed, Option.some_or]
    constructor
    · intro found
      obtain rfl := Option.some.inj found
      exact .delays reversed
    · intro first
      cases first with
      | delays => rfl
      | chain delays => exact absurd reversed (UInt64.not_lt.mpr delays)
  · rw [if_neg reversed, Option.none_or]
    constructor
    · intro found
      obtain ⟨before, c, after, split, sound, offends⟩ :=
        @chainsViolation?_eq_some [] _ v .nil found
      exact .chain (UInt64.not_lt.mp reversed) split sound offends
    · intro first
      cases first with
      | delays backwards => exact absurd backwards reversed
      | @chain before after c v delays split sound offends =>
        -- the scan reaches the chain with the names of those before it
        have passed := @chainsViolation?_append [] before sound (c :: after)
        rw [← split] at passed
        have own := FilterChain.violation?_eq_some_iff.mpr offends
        refine passed.trans ?_
        rw [List.nil_append, chainsViolation?, own]

end ConfigLayer

/-- What finalizing makes of a layer. -/
structure Finalizes (layer : ConfigLayer) : Prop where
  accepted : (∃ config, layer.finalize = .ok config) ↔ layer.Acceptable
  refused : ∀ e, layer.finalize = .error e ↔ ∃ v, e = .invalid v ∧ layer.FirstViolation v
  chains : ∀ config, layer.finalize = .ok config → config.filterChains = layer.chains

/-- Finalizing accepts the acceptable layers with their chains as they are, and refuses all others
because of their first violation. -/
theorem finalize_reports_first (layer : ConfigLayer) : Finalizes layer := by
  constructor
  case accepted =>
    simp only [ConfigLayer.finalize_eq_ok_iff, exists_and_left, exists_eq', and_true]
    exact ConfigLayer.violation?_eq_none_iff
  case refused =>
    intro e
    simp only [ConfigLayer.finalize_eq_error_iff, ConfigLayer.violation?_eq_some_iff]
  case chains =>
    intro config accepted
    obtain ⟨_, rfl⟩ := ConfigLayer.finalize_eq_ok_iff.mp accepted
    rfl

/-- A disabled chain needs no patterns, but its name is taken. -/
example : ConfigLayer.finalize
    { filterChains := some [{ name := "web", disabled := true }, { name := "web" }] } =
      .error (.invalid (.duplicateChainName "web")) := rfl

/-- The shortest delay is set and exceeds the default of the longest. -/
example : ConfigLayer.finalize
    { bruteForce := some { minDelay := some 6000 }, filterChains := some [{ name := " " }] } =
      .error (.invalid (.delaysReversed 6000 5000)) := rfl

end MapGate
