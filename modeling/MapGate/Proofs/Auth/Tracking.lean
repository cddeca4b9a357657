import Mathlib.Data.List.Nodup
import Mathlib.Data.List.Perm.Subperm
import MapGate.Proofs.Auth.GuardRun

/-!
The tracker of the guard follows its running delays. Every entry stands for a running delay, and
every running delay that started after the tracker was last emptied has its entry. Numbers are not
handed out twice as long as there are fewer than 2^64 attempts, which is what keeps the late end of
an attempt away from the entry of a newer one for the same username.
-/
namespace MapGate
namespace Guard

/-- How entries and running delays belong together after at most `n` attempts. -/
structure Tracked (g : Guard) (n : Nat) : Prop where
  owned : ∀ key ∈ g.entryKeys, key ∈ g.delayKeys
  names : (g.entryKeys.map Prod.fst).Nodup
  numbers : (g.delayKeys.map Prod.snd).Nodup
  below : ∀ key ∈ g.delayKeys, key.2.toNat < g.nextId.toNat
  counted : g.nextId.toNat ≤ n

/-- The running delays numbered from `mark` on have their entries. -/
def Covers (g : Guard) (mark : Nat) : Prop :=
  ∀ key ∈ g.delayKeys, mark ≤ key.2.toNat → key ∈ g.entryKeys

theorem tracked_start (settings : GuardSettings) : Tracked { settings } 0 where
  owned key member := by simp [entryKeys] at member
  names := List.nodup_nil
  numbers := List.nodup_nil
  below key member := by simp [delayKeys] at member
  counted := Nat.le_refl 0

theorem tracked_ofConfig {config : BruteForceConfig} {start : Guard}
    (started : ofConfig config = .ok start) : Tracked start 0 := by
  obtain ⟨settings, _, rfl⟩ := ofConfig_eq_ok_iff.mp started
  exact tracked_start settings

namespace Tracked

variable {g after : Guard} {n : Nat}

theorem le (tracked : Tracked g n) {m : Nat} (more : n ≤ m) : Tracked g m :=
  { tracked with counted := Nat.le_trans tracked.counted more }

theorem entry_numbers (tracked : Tracked g n) : (g.entryKeys.map Prod.snd).Nodup := by
  have distinct : g.entryKeys.Nodup := List.Nodup.of_map Prod.fst tracked.names
  apply List.Nodup.map_on _ distinct
  intro key member other listed same
  exact List.inj_on_of_nodup_map tracked.numbers (tracked.owned key member)
    (tracked.owned other listed) same

theorem not_gone (tracked : Tracked g n) {gone : List (String × UInt64)}
    (delays : (gone ++ after.delayKeys).Perm g.delayKeys) :
    ∀ key ∈ after.delayKeys, key ∉ gone := by
  have distinct : (gone ++ after.delayKeys).Nodup :=
    delays.nodup_iff.mpr (List.Nodup.of_map Prod.snd tracked.numbers)
  intro key running ended
  exact (List.nodup_append.mp distinct).2.2 key ended key running rfl

/-- A step that only takes entries and delays away, and no delay of an entry that stays. -/
theorem fewer (tracked : Tracked g n) (owned : ∀ key ∈ after.entryKeys, key ∈ after.delayKeys)
    (entries : after.entryKeys.Sublist g.entryKeys) (delays : after.delayKeys.Subperm g.delayKeys)
    (number : after.nextId = g.nextId) : Tracked after n := by
  constructor
  case owned => exact owned
  case names => exact tracked.names.sublist (entries.map Prod.fst)
  case numbers =>
    obtain ⟨rest, same, sublist⟩ := delays
    have numbers := tracked.numbers.sublist (sublist.map Prod.snd)
    exact (same.map Prod.snd).nodup_iff.mp numbers
  case below =>
    intro key running
    rw [number]
    exact tracked.below key (delays.subset running)
  case counted =>
    rw [number]
    exact tracked.counted

theorem next_number (tracked : Tracked g n) (few : n + 1 < UInt64.size) :
    (g.nextId + 1).toNat = g.nextId.toNat + 1 := by
  have counted := tracked.counted
  have fits : g.nextId.toNat + 1 < UInt64.size := by omega
  rw [UInt64.toNat_add]
  exact Nat.mod_eq_of_lt fits

theorem held (tracked : Tracked g n) {username : String} (few : n + 1 < UInt64.size)
    (free : username ∉ g.entryKeys.map Prod.fst)
    (entries : after.entryKeys = g.entryKeys ++ [(username, g.nextId)])
    (delays : after.delayKeys = g.delayKeys ++ [(username, g.nextId)])
    (number : after.nextId = g.nextId + 1) : Tracked after (n + 1) := by
  have counted := tracked.counted
  have next := tracked.next_number few
  rw [← number] at next
  constructor
  case owned =>
    intro key member
    rw [entries, List.mem_append] at member
    rw [delays, List.mem_append]
    exact member.imp_left (tracked.owned key)
  case names =>
    have once := tracked.names.concat free
    rw [List.concat_eq_append] at once
    rw [entries, List.map_append]
    exact once
  case numbers =>
    have new : g.nextId ∉ g.delayKeys.map Prod.snd := by
      intro listed
      obtain ⟨key, running, same⟩ := List.mem_map.mp listed
      have below := tracked.below key running
      rw [same] at below
      exact Nat.lt_irrefl _ below
    have once := tracked.numbers.concat new
    rw [List.concat_eq_append] at once
    rw [delays, List.map_append]
    exact once
  case below =>
    intro key member
    rw [delays, List.mem_append, List.mem_singleton] at member
    rw [next]
    rcases member with old | rfl
    · exact Nat.lt_succ_of_lt (tracked.below key old)
    · exact Nat.lt_succ_self _
  case counted => omega

theorem ended (tracked : Tracked g n) {gone : List (String × UInt64)}
    (entries : after.entryKeys = g.entryKeys.filter (· ∉ gone))
    (delays : (gone ++ after.delayKeys).Perm g.delayKeys) (number : after.nextId = g.nextId) :
    Tracked after n := by
  have less : after.delayKeys.Subperm g.delayKeys :=
    (List.sublist_append_right gone after.delayKeys).subperm.trans delays.subperm
  apply tracked.fewer _ (entries ▸ List.filter_sublist) less number
  intro key member
  rw [entries, List.mem_filter, decide_eq_true_iff] at member
  have before := delays.mem_iff.mpr (tracked.owned key member.1)
  exact (List.mem_append.mp before).resolve_left member.2

theorem step_holds (tracked : Tracked g n) (event : GuardEvent)
    (few : n + g.holds event < UInt64.size) : Tracked (g.step event) (n + g.holds event) := by
  cases step_effect g event with
  | kept entries delays number =>
    have owned : ∀ key ∈ (g.step event).entryKeys, key ∈ (g.step event).delayKeys := by
      rw [entries, delays]
      exact tracked.owned
    have same := tracked.fewer owned (entries ▸ .refl _) (delays ▸ .refl _) number
    exact same.le (Nat.le_add_right n _)
  | held username attempt free entries delays number holds =>
    rw [holds] at few ⊢
    exact tracked.held few free entries delays number
  | ended gone entries delays number =>
    exact (tracked.ended entries delays number).le (Nat.le_add_right n _)
  | cleared clears entries delays number =>
    have owned : ∀ key ∈ (g.step event).entryKeys, key ∈ (g.step event).delayKeys := by
      simp [entries]
    have emptied := tracked.fewer owned (entries ▸ List.nil_sublist _) delays.subperm number
    exact emptied.le (Nat.le_add_right n _)

theorem step (tracked : Tracked g n) (event : GuardEvent)
    (few : n + event.attempts < UInt64.size) : Tracked (g.step event) (n + event.attempts) := by
  have most := Nat.add_le_add_left (holds_le_attempts g event) n
  exact (tracked.step_holds event (Nat.lt_of_le_of_lt most few)).le most

theorem run_heldCount (tracked : Tracked g n) (events : List GuardEvent)
    (few : n + g.heldCount events < UInt64.size) :
    Tracked (g.run events) (n + g.heldCount events) := by
  induction events generalizing g n with
  | nil => exact tracked
  | cons event rest ih =>
    rw [heldCount, ← Nat.add_assoc] at few ⊢
    have first : n + g.holds event < UInt64.size := Nat.lt_of_le_of_lt (Nat.le_add_right _ _) few
    exact ih (tracked.step_holds event first) few

theorem run (tracked : Tracked g n) (events : List GuardEvent)
    (few : n + attemptCount events < UInt64.size) :
    Tracked (g.run events) (n + attemptCount events) := by
  have most := Nat.add_le_add_left (heldCount_le_attemptCount g events) n
  exact (tracked.run_heldCount events (Nat.lt_of_le_of_lt most few)).le most

theorem leaves (tracked : Tracked g n) (event : GuardEvent) {key : String × UInt64}
    (listed : key ∈ g.entryKeys) (out : key ∉ (g.step event).entryKeys) :
    event.Clears ∨ key ∉ (g.step event).delayKeys := by
  cases step_effect g event with
  | kept entries => exact absurd (entries ▸ listed) out
  | held username _ _ entries =>
    rw [entries] at out
    exact absurd (List.mem_append_left _ listed) out
  | ended gone entries delays =>
    right
    -- an entry goes with a delay of its key, and there is only one such delay
    intro running
    have stays := tracked.not_gone delays key running
    rw [entries, List.mem_filter, decide_eq_true_iff] at out
    exact out ⟨listed, stays⟩
  | cleared clears => exact .inl clears

theorem covers_step (tracked : Tracked g n) {mark : Nat} (covers : g.Covers mark)
    {event : GuardEvent} (calm : ¬ event.Clears) : (g.step event).Covers mark := by
  intro key running recent
  cases step_effect g event with
  | kept entries delays =>
    rw [entries]
    exact covers key (delays ▸ running) recent
  | held username _ _ entries delays =>
    rw [delays] at running
    rw [entries]
    exact List.mem_append.mpr ((List.mem_append.mp running).imp_left (covers key · recent))
  | ended gone entries delays =>
    have before : key ∈ g.delayKeys := delays.mem_iff.mp (List.mem_append_right gone running)
    rw [entries, List.mem_filter, decide_eq_true_iff]
    exact ⟨covers key before recent, tracked.not_gone delays key running⟩
  | cleared clears => exact absurd clears calm

theorem covers_run (tracked : Tracked g n) {mark : Nat} (covers : g.Covers mark)
    {events : List GuardEvent} (few : n + attemptCount events < UInt64.size)
    (calm : ∀ event ∈ events, ¬ event.Clears) : (g.run events).Covers mark := by
  induction events generalizing g n with
  | nil => exact covers
  | cons event rest ih =>
    rw [attemptCount, ← Nat.add_assoc] at few
    have first : n + event.attempts < UInt64.size := Nat.lt_of_le_of_lt (Nat.le_add_right _ _) few
    have still := tracked.covers_step covers (calm event List.mem_cons_self)
    exact ih (tracked.step event first) still few
      fun later member => calm later (List.mem_cons_of_mem _ member)

/-- Nothing that runs has a number that is still to be handed out. -/
theorem covers_nextId (tracked : Tracked g n) : g.Covers g.nextId.toNat := by
  intro key running recent
  exact absurd (tracked.below key running) (Nat.not_lt.mpr recent)

end Tracked

/-- An attempt among some events started the delay with this number, and nothing has emptied the
tracker since. -/
def StartedSinceClear (g : Guard) (events : List GuardEvent) (id : UInt64) : Prop :=
  ∃ before event random after, events = before ++ .attempt event random :: after ∧
    ((g.run before).attempt event random).1 = .delayed id ∧ ∀ later ∈ after, ¬ later.Clears

theorem entry_of_startedSinceClear {g : Guard} {n : Nat} (tracked : Tracked g n)
    {events : List GuardEvent} (few : n + attemptCount events < UInt64.size) {d : Delay}
    (running : d ∈ (g.run events).running) (started : g.StartedSinceClear events d.id) :
    d.key ∈ (g.run events).entryKeys := by
  obtain ⟨before, event, random, after, rfl, delayed, calm⟩ := started
  rw [attemptCount_append, ← Nat.add_assoc] at few
  have earlier : Tracked (g.run before) (n + attemptCount before) :=
    tracked.run before (Nat.lt_of_le_of_lt (Nat.le_add_right _ _) few)
  have number : d.id = (g.run before).nextId := delayed_number delayed
  -- before the attempt nothing runs under its number, and from there on nothing is cleared
  have covers : ((g.run before).run (.attempt event random :: after)).Covers
      (g.run before).nextId.toNat := by
    apply earlier.covers_run earlier.covers_nextId few
    intro later member
    rcases List.mem_cons.mp member with rfl | rest
    · exact id
    · exact calm later rest
  rw [run_append] at running ⊢
  exact covers d.key (List.mem_map_of_mem running) (by rw [← number]; exact Nat.le_refl _)

theorem mem_finish_tracker {g : Guard} {ends : Delay → Bool} {e : TrackerEntry}
    (listed : e ∈ g.tracker) (other : ∀ d ∈ g.running, ends d = true → d.id ≠ e.id) :
    e ∈ (g.finish ends).tracker := by
  refine List.mem_filter.mpr ⟨listed, ?_⟩
  rw [Bool.not_eq_true', List.any_eq_false]
  intro d ended same
  obtain ⟨running, picked⟩ := List.mem_filter.mp ended
  rw [Bool.and_eq_true, beq_iff_eq, beq_iff_eq] at same
  exact other d running picked same.2

/-- How the tracker and the running delays belong together after a run. -/
structure FollowsDelays (start : Guard) (events : List GuardEvent) : Prop where
  owned : ∀ e ∈ (start.run events).tracker,
    ∃ d ∈ (start.run events).running, d.id = e.id ∧ d.username = e.username
  distinct : ((start.run events).tracker.map TrackerEntry.id).Nodup
  covered : ∀ d ∈ (start.run events).running, start.StartedSinceClear events d.id →
    ∃ e ∈ (start.run events).tracker, e.id = d.id ∧ e.username = d.username
  /-- An entry goes only when all entries go or its own attempt ends. -/
  leaves : ∀ event, ∀ e ∈ (start.run events).tracker,
    e.key ∉ ((start.run events).step event).entryKeys →
      event.Clears ∨ e.key ∉ ((start.run events).step event).delayKeys
  /-- The end of an attempt, however late, leaves the entry of another one for that username. -/
  lateEnd : ∀ d ∈ (start.run events).running, ∀ e ∈ (start.run events).tracker,
    e.username = d.username → e.id ≠ d.id →
      e ∈ ((start.run events).step (.wake d.id)).tracker ∧
      e ∈ ((start.run events).step (.cancel d.id)).tracker
  idle : (start.run events).running = [] → (start.run events).tracker = []

/-- In every state that a guard can reach with fewer than 2^64 attempts the tracker follows the
running delays. -/
theorem tracker_followsDelays {config : BruteForceConfig} {start : Guard}
    {events : List GuardEvent} (started : ofConfig config = .ok start)
    (few : attemptCount events < UInt64.size) : FollowsDelays start events := by
  have fresh : Tracked start 0 := tracked_ofConfig started
  rw [← Nat.zero_add (attemptCount events)] at few
  have tracked := fresh.run events few
  have owned : ∀ e ∈ (start.run events).tracker,
      ∃ d ∈ (start.run events).running, d.id = e.id ∧ d.username = e.username := by
    intro e listed
    have member := tracked.owned e.key (List.mem_map_of_mem listed)
    obtain ⟨d, running, same⟩ := List.mem_map.mp member
    exact ⟨d, running, congrArg Prod.snd same, congrArg Prod.fst same⟩
  constructor
  case owned => exact owned
  case distinct =>
    have numbers := tracked.entry_numbers
    rwa [entryKeys, List.map_map] at numbers
  case covered =>
    intro d running since
    have member := entry_of_startedSinceClear fresh few running since
    obtain ⟨e, listed, same⟩ := List.mem_map.mp member
    exact ⟨e, listed, congrArg Prod.snd same, congrArg Prod.fst same⟩
  case leaves =>
    intro event e listed out
    exact tracked.leaves event (List.mem_map_of_mem listed) out
  case lateEnd =>
    intro d running e listed _ differs
    constructor
    · apply mem_finish_tracker listed
      intro other _ picked
      rw [Bool.and_eq_true, beq_iff_eq] at picked
      exact picked.1 ▸ differs.symm
    · apply mem_finish_tracker listed
      intro other _ picked
      rw [beq_iff_eq] at picked
      exact picked ▸ differs.symm
  case idle =>
    intro none
    rw [List.eq_nil_iff_forall_not_mem]
    intro e listed
    obtain ⟨d, running, _⟩ := owned e listed
    rw [none] at running
    exact List.not_mem_nil running

/-- A username is held back, forgotten, and held back again before its first delay has ended. -/
theorem tracker_followsDelays_reset :
    let failure : AuthEvent := { kind := .badCredentials, username := some " alice " }
    let events : List GuardEvent :=
      [.attempt failure 0, .reset, .attempt failure 7, .attempt failure 8, .wait 1000, .wake 0]
    ∃ start, ofConfig { whitelist := [] } = .ok start ∧ attemptCount events < UInt64.size ∧
      FollowsDelays start events ∧ (start.run events).tracker = [⟨"alice", 1, 2⟩] := by
  intro failure events
  have few : attemptCount events < UInt64.size := by decide
  refine ⟨_, rfl, few, @tracker_followsDelays { whitelist := [] } _ events rfl few, ?_⟩
  decide +kernel

end Guard
end MapGate
