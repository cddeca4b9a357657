import Mathlib.Data.List.Infix
import Mathlib.Data.List.Nodup
import MapGate.Proofs.Auth.GuardRun

/-!
The cap on what the guard holds back. It bounds the tracked usernames. A reset forgets them while
their delays go on, so it opens an epoch in which as many delays may start as the cap allows: the
delays that run at one time are bounded by the cap once for every epoch.
-/
namespace MapGate

def GuardEvent.resets : GuardEvent → Nat
  | reset => 1
  | _ => 0

def resetCount : List GuardEvent → Nat
  | [] => 0
  | event :: rest => event.resets + resetCount rest

theorem resetCount_eq_zero {events : List GuardEvent} (calm : .reset ∉ events) :
    resetCount events = 0 := by
  induction events with
  | nil => rfl
  | cons event rest ih =>
    obtain ⟨other, later⟩ := not_or.mp (mt List.mem_cons.mpr calm)
    rw [resetCount, ih later]
    cases event with
    | reset => exact absurd rfl other
    | _ => rfl

/-- A filter takes no more elements out of a list without repetitions than there are to go. -/
theorem length_le_length_filter_add {α : Type} {l gone : List α} (once : l.Nodup)
    {keep : α → Bool} (listed : ∀ a ∈ l, keep a = false → a ∈ gone) :
    l.length ≤ (l.filter keep).length + gone.length := by
  have removed : (l.filter (! keep ·)).length ≤ gone.length := by
    apply (once.filter _).length_le_of_subset
    intro a member
    obtain ⟨old, out⟩ := List.mem_filter.mp member
    exact listed a old (Bool.not_eq_true' _ ▸ out)
  have parts := List.length_eq_length_filter_add (l := l) keep
  omega

namespace Guard

/-- A guard with cap `m` after some resets. Delays without an entry are left from before a reset,
at most `m` for each. -/
structure WithinCap (g : Guard) (m resets : Nat) : Prop where
  once : g.entryKeys.Nodup
  tracked : g.entryKeys.length ≤ m
  running : g.delayKeys.length ≤ g.entryKeys.length + m * resets

theorem withinCap_ofConfig {config : BruteForceConfig} {start : Guard}
    (started : ofConfig config = .ok start) (m : Nat) : WithinCap start m 0 := by
  obtain ⟨settings, _, rfl⟩ := ofConfig_eq_ok_iff.mp started
  exact ⟨List.nodup_nil, Nat.zero_le m, Nat.le_refl 0⟩

theorem length_entryKeys (g : Guard) : g.entryKeys.length = g.trackedCount := List.length_map _

theorem length_delayKeys (g : Guard) : g.delayKeys.length = g.running.length := List.length_map _

namespace WithinCap

variable {g : Guard} {m resets : Nat}

theorem step (within : WithinCap g m resets) (positive : 0 < m)
    (limit : g.settings.maxBlocked = m) (event : GuardEvent) :
    WithinCap (g.step event) m (resets + event.resets) := by
  obtain ⟨once, tracked, running⟩ := within
  have epochs : m * resets ≤ m * (resets + event.resets) :=
    Nat.mul_le_mul_left m (Nat.le_add_right _ _)
  cases step_effect g event with
  | kept entries delays =>
    constructor
    · rwa [entries]
    · rwa [entries]
    · rw [entries, delays]
      omega
  | held username _ free entries delays _ _ room =>
    -- there was room, and a new delay comes with its entry
    have below : g.entryKeys.length < m := by
      rw [IsFull, limit, ← length_entryKeys] at room
      omega
    have new : (username, g.nextId) ∉ g.entryKeys := fun listed =>
      free (List.mem_map_of_mem (f := Prod.fst) listed)
    constructor
    · rw [entries, ← List.concat_eq_append]
      exact once.concat new
    · rw [entries, List.length_append, List.length_singleton]
      exact below
    · rw [entries, delays, List.length_append, List.length_append, List.length_singleton]
      omega
  | ended gone entries delays =>
    -- no more entries go than delays
    have less : (g.step event).entryKeys.length ≤ g.entryKeys.length := by
      rw [entries]
      exact List.length_filter_le _ _
    have most : g.entryKeys.length ≤ (g.step event).entryKeys.length + gone.length := by
      rw [entries]
      exact length_le_length_filter_add once fun key _ out => by simpa using out
    have parts := delays.length_eq
    rw [List.length_append] at parts
    constructor
    · rw [entries]
      exact once.filter _
    · omega
    · omega
  | cleared clears entries delays =>
    constructor
    · rw [entries]
      exact List.nodup_nil
    · rw [entries]
      exact Nat.zero_le m
    · cases event with
      | reset =>
        have more := delays.length_le
        have next : m * (resets + 1) = m * resets + m := Nat.mul_succ m resets
        simp only [GuardEvent.resets]
        omega
      | shutdown => exact Nat.zero_le _
      | _ => exact clears.elim

theorem run (within : WithinCap g m resets) (positive : 0 < m) {events : List GuardEvent}
    (limit : ∀ before, before <+: events → (g.run before).settings.maxBlocked = m) :
    WithinCap (g.run events) m (resets + resetCount events) := by
  induction events generalizing g resets with
  | nil => exact within
  | cons event rest ih =>
    have first := within.step positive (limit [] List.nil_prefix) event
    rw [resetCount, ← Nat.add_assoc]
    apply ih first
    intro before early
    exact limit (event :: before) (List.cons_prefix_cons.mpr ⟨rfl, early⟩)

end WithinCap

/-- As long as the cap is the same positive number, no more usernames are tracked than it allows,
and no more delays run at one time than it allows for each epoch between resets. -/
theorem blocked_within_cap {config : BruteForceConfig} {start : Guard} {events : List GuardEvent}
    {m : Nat} (started : ofConfig config = .ok start) (positive : 0 < m)
    (limit : ∀ before, before <+: events → (start.run before).settings.maxBlocked = m) :
    (start.run events).trackedCount ≤ m ∧
      (start.run events).running.length ≤ m * (1 + resetCount events) ∧
      (.reset ∉ events → (start.run events).running.length ≤ m) := by
  have within := (withinCap_ofConfig started m).run positive limit
  rw [Nat.zero_add] at within
  have tracked := within.tracked
  rw [length_entryKeys] at tracked
  have running : (start.run events).running.length ≤ m * (1 + resetCount events) := by
    have bound := within.running
    rw [length_delayKeys, length_entryKeys] at bound
    rw [Nat.mul_add, Nat.mul_one]
    omega
  refine ⟨tracked, running, ?_⟩
  intro calm
  rwa [resetCount_eq_zero calm, Nat.add_zero, Nat.mul_one] at running

/-- With room for one, a reset lets a second delay run beside the first, and no third. -/
theorem blocked_within_cap_reset :
    let config : BruteForceConfig := { maxBlocked := 1, whitelist := [] }
    let failure (username : String) : AuthEvent :=
      { kind := .badCredentials, username := some username }
    let events : List GuardEvent :=
      [.attempt (failure "alice") 0, .attempt (failure "bob") 0, .reset,
        .reconfigure { config with minDelay := 9000 }, .attempt (failure "bob") 5, .wait 9000,
        .attempt (failure "carol") 0]
    ∃ start, ofConfig config = .ok start ∧ 0 < 1 ∧
      (∀ before, before <+: events → (start.run before).settings.maxBlocked = 1) ∧
      ((start.run events).trackedCount ≤ 1 ∧
        (start.run events).running.length ≤ 1 * (1 + resetCount events) ∧
        (.reset ∉ events → (start.run events).running.length ≤ 1)) ∧
      (start.run events).running.length = 2 ∧ resetCount events = 1 := by
  intro config failure events
  obtain ⟨start, started⟩ : ∃ start, ofConfig config = .ok start := ⟨_, rfl⟩
  have limit : ∀ before, before <+: events → (start.run before).settings.maxBlocked = 1 := by
    have listed : ∀ before ∈ events.inits, (start.run before).settings.maxBlocked = 1 := by
      obtain rfl := Except.ok.inj started
      decide +kernel
    intro before early
    exact listed before ((List.mem_inits before events).mpr early)
  refine ⟨start, started, Nat.one_pos, limit, blocked_within_cap started Nat.one_pos limit, ?_⟩
  obtain rfl := Except.ok.inj started
  decide +kernel

end Guard
end MapGate
