import MapGate.Proofs.Auth.Tracking

/-!
Attempts for a username that is being held back. From the start of a delay to its end, unless the
tracker is emptied, the entry of the username is that of the delay, and it counts the attempts for
the username that reach the guard. Each of them is refused with the count so far.
-/
namespace MapGate

theorem AuthEvent.principal?_eq_some_iff {event : AuthEvent} {username : String} :
    event.principal? = some username ↔ event.username.map trimmed = some username ∧ username ≠ "" := by
  unfold principal? blank trimmed
  cases event.username with
  | none => simp
  | some name =>
    by_cases empty : Text.trim name.toList = []
    · simp [empty]
    · have nonempty : String.ofList (Text.trim name.toList) ≠ "" := by simpa using empty
      simp only [List.isEmpty_iff, empty, if_false, Option.map_some, Option.some.injEq]
      exact ⟨fun same => ⟨same, same ▸ nonempty⟩, And.left⟩

namespace Guard

/-- An attempt for a username, but for surrounding white space, reaches the guard while it is
enabled and from a source that is not exempt. -/
structure Reaches (g : Guard) (username : String) (event : AuthEvent) : Prop where
  enabled : g.settings.enabled = true
  notExempt : g.exempts event = false
  named : event.username.map trimmed = some username

instance (g : Guard) (username : String) (event : AuthEvent) :
    Decidable (g.Reaches username event) :=
  decidable_of_iff
    (g.settings.enabled = true ∧ g.exempts event = false ∧
      event.username.map trimmed = some username)
    ⟨fun ⟨enabled, notExempt, named⟩ => ⟨enabled, notExempt, named⟩,
      fun ⟨enabled, notExempt, named⟩ => ⟨enabled, notExempt, named⟩⟩

/-- How many attempts for a username an event brings before the guard. -/
def reaching (g : Guard) (username : String) : GuardEvent → Nat
  | .attempt event _ => if g.Reaches username event then 1 else 0
  | _ => 0

/-- How many attempts for a username reach the guard during some events. -/
def reachCount (g : Guard) (username : String) : List GuardEvent → Nat
  | [] => 0
  | event :: rest => g.reaching username event + reachCount (g.step event) username rest

theorem step_opened (g : Guard) {event : GuardEvent} (calm : ¬ event.Clears) :
    (g.step event).shutDown = g.shutDown := by
  cases event with
  | attempt event random =>
    have decided := attempt_decides g event random
    dsimp only [step]
    generalize (g.attempt event random).1 = verdict, (g.attempt event random).2 = after
      at decided ⊢
    cases decided <;> rfl
  | reconfigure config =>
    obtain ⟨settings, same⟩ := step_reconfigure g config
    rw [same]
  | shutdown => exact absurd trivial calm
  | _ => rfl

/-- An attempt for a tracked username is refused, and only its entry changes. -/
theorem attempt_tracked {g : Guard} {event : AuthEvent} {username : String} {entry : TrackerEntry}
    (considered : g.Considers event) (named : event.principal? = some username)
    (found : g.entry? username = some entry) (random : Nat) :
    g.attempt event random = (.rejected (.concurrent username entry.attempts),
      { g with tracker := countAttempt g.tracker username }) := by
  simp [attempt, considered.enabled, considered.opened, considered.notExempt, named, found]

theorem entry?_countAttempt (g : Guard) (username other : String) :
    entry? { g with tracker := countAttempt g.tracker other } username =
      (g.entry? username).map fun e =>
        if e.username == other then { e with attempts := e.attempts + 1 } else e := by
  unfold entry? countAttempt
  rw [List.find?_map]
  congr 2
  funext e
  dsimp only [Function.comp]
  split <;> rfl

theorem entry?_username {g : Guard} {username : String} {entry : TrackerEntry}
    (found : g.entry? username = some entry) : entry.username = username := by
  have same := List.find?_some found
  exact beq_iff_eq.mp same

theorem entry?_hold_other {g : Guard} {username other : String} (differs : other ≠ username)
    (random : Nat) : entry? (g.hold other random) username = g.entry? username := by
  unfold entry? hold
  simp [List.find?_append, differs]

theorem entry?_hold_self {g : Guard} {username : String} (free : g.entry? username = none)
    (random : Nat) :
    entry? (g.hold username random) username = some ⟨username, g.nextId, 1⟩ := by
  unfold entry? at free
  unfold entry? hold
  simp [List.find?_append, free]

theorem entry?_finish {g : Guard} {ends : Delay → Bool} {username : String} {entry : TrackerEntry}
    (found : g.entry? username = some entry)
    (stays : entry.key ∉ (g.running.filter ends).map Delay.key) :
    entry? (g.finish ends) username = some entry := by
  have kept : (!(g.running.filter ends).any fun d =>
      d.username == entry.username && d.id == entry.id) = true := by
    rw [Bool.not_eq_true', List.any_eq_false]
    intro d ended same
    rw [Bool.and_eq_true, beq_iff_eq, beq_iff_eq] at same
    exact stays (List.mem_map.mpr ⟨d, ended, Prod.ext same.1 same.2⟩)
  obtain ⟨fits, before, after, tracker, others⟩ := List.find?_eq_some_iff_append.mp found
  unfold entry? finish release
  rw [List.find?_filter, List.find?_eq_some_iff_append]
  refine ⟨decide_eq_true ⟨kept, fits⟩, before, after, tracker, ?_⟩
  intro e early
  have other := others e early
  rw [Bool.not_eq_true'] at other ⊢
  exact decide_eq_false fun both => Bool.eq_false_iff.mp other both.2

namespace Tracked

variable {g : Guard} {n : Nat}

theorem nextId_le_step (tracked : Tracked g n) {event : GuardEvent}
    (few : n + g.holds event < UInt64.size) : g.nextId.toNat ≤ (g.step event).nextId.toNat := by
  cases step_effect g event with
  | kept _ _ number => exact Nat.le_of_eq (congrArg UInt64.toNat number.symm)
  | held _ _ _ _ _ number holds =>
    rw [holds] at few
    rw [number, tracked.next_number few]
    exact Nat.le_succ _
  | ended _ _ _ number => exact Nat.le_of_eq (congrArg UInt64.toNat number.symm)
  | cleared _ _ _ number => exact Nat.le_of_eq (congrArg UInt64.toNat number.symm)

/-- A number is handed out before its delay runs. -/
theorem running_before_step {event : GuardEvent} {key : String × UInt64}
    (old : key.2.toNat < g.nextId.toNat) (running : key ∈ (g.step event).delayKeys) :
    key ∈ g.delayKeys := by
  cases step_effect g event with
  | kept _ delays => exact delays ▸ running
  | held username _ _ _ delays =>
    rw [delays, List.mem_append, List.mem_singleton] at running
    rcases running with before | rfl
    · exact before
    · exact absurd old (Nat.lt_irrefl _)
  | ended gone _ delays => exact delays.mem_iff.mp (List.mem_append_right gone running)
  | cleared _ _ delays => exact delays.subset running

theorem running_before_run (tracked : Tracked g n) {events : List GuardEvent}
    (few : n + g.heldCount events < UInt64.size) {key : String × UInt64}
    (old : key.2.toNat < g.nextId.toNat) (running : key ∈ (g.run events).delayKeys) :
    key ∈ g.delayKeys := by
  induction events generalizing g n with
  | nil => exact running
  | cons event rest ih =>
    rw [heldCount, ← Nat.add_assoc] at few
    have first : n + g.holds event < UInt64.size := Nat.lt_of_le_of_lt (Nat.le_add_right _ _) few
    have later := Nat.lt_of_lt_of_le old (tracked.nextId_le_step first)
    exact running_before_step old (ih (tracked.step_holds event first) few later running)

end Tracked

/-- The username is held back by the attempt with this number, and so many attempts for it have
been refused since. -/
structure Holding (g : Guard) (n : Nat) (username : String) (id : UInt64) (refused : Nat) :
    Prop where
  tracked : Tracked g n
  opened : g.shutDown = false
  named : username ≠ ""
  entry : g.entry? username = some ⟨username, id, UInt32.ofNat (refused + 1)⟩

namespace Holding

variable {g : Guard} {n : Nat} {username : String} {id : UInt64} {refused : Nat}

theorem running (holding : Holding g n username id refused) : (username, id) ∈ g.delayKeys := by
  have listed := List.mem_of_find?_eq_some holding.entry
  exact holding.tracked.owned _ (List.mem_map_of_mem listed)

theorem refuses (holding : Holding g n username id refused) {event : AuthEvent}
    (reaches : g.Reaches username event) (random : Nat) :
    g.attempt event random = (.rejected (.concurrent username (UInt32.ofNat (refused + 1))),
      { g with tracker := countAttempt g.tracker username }) := by
  have considered : g.Considers event := ⟨reaches.enabled, holding.opened, reaches.notExempt⟩
  have named := AuthEvent.principal?_eq_some_iff.mpr ⟨reaches.named, holding.named⟩
  exact attempt_tracked considered named holding.entry random

/-- An attempt that does not reach the guard for this username leaves its entry alone. -/
theorem entry_attempt_other (holding : Holding g n username id refused) {event : AuthEvent}
    (elsewhere : ¬ g.Reaches username event) (random : Nat) :
    entry? (g.attempt event random).2 username = g.entry? username := by
  have other {name : String} (considered : g.Considers event)
      (named : event.principal? = some name) : name ≠ username := by
    rintro rfl
    obtain ⟨same, _⟩ := AuthEvent.principal?_eq_some_iff.mp named
    exact elsewhere ⟨considered.enabled, considered.notExempt, same⟩
  have decided := attempt_decides g event random
  generalize (g.attempt event random).1 = verdict, (g.attempt event random).2 = after at decided ⊢
  cases decided with
  | disabled | whitelisted | noUsername | notAFailure | tooManyBlocked => rfl
  | concurrent considered named =>
    have differs := other considered named
    rw [entry?_countAttempt, holding.entry]
    simp [differs.symm]
  | delayed considered named => exact entry?_hold_other (other considered named) random

theorem entry_finish (holding : Holding g n username id refused) {ends : Delay → Bool}
    (stays : (username, id) ∈ (g.finish ends).delayKeys) :
    entry? (g.finish ends) username = g.entry? username := by
  have out := holding.tracked.not_gone (finish_delays g ends) (username, id) stays
  rw [holding.entry]
  exact entry?_finish holding.entry out

theorem step (holding : Holding g n username id refused) {event : GuardEvent}
    (few : n + g.holds event < UInt64.size) (calm : ¬ event.Clears)
    (stays : (username, id) ∈ (g.step event).delayKeys) :
    Holding (g.step event) (n + g.holds event) username id
      (refused + g.reaching username event) := by
  constructor
  case tracked => exact holding.tracked.step_holds event few
  case opened => rw [step_opened g calm, holding.opened]
  case named => exact holding.named
  case entry =>
    cases event with
    | attempt event random =>
      by_cases reaches : g.Reaches username event
      · have counted := congrArg Prod.snd (holding.refuses reaches random)
        rw [Guard.step, counted, entry?_countAttempt, holding.entry]
        simp [reaching, reaches, UInt32.ofNat_add]
      · rw [Guard.step, holding.entry_attempt_other reaches, holding.entry]
        simp [reaching, reaches]
    | elapse time => exact (holding.entry_finish stays).trans holding.entry
    | wait time => exact holding.entry
    | wake number => exact (holding.entry_finish stays).trans holding.entry
    | cancel number => exact (holding.entry_finish stays).trans holding.entry
    | reset => exact absurd trivial calm
    | shutdown => exact absurd trivial calm
    | reconfigure config =>
      obtain ⟨settings, same⟩ := step_reconfigure g config
      rw [same]
      exact holding.entry

theorem run (holding : Holding g n username id refused) {events : List GuardEvent}
    (few : n + g.heldCount events < UInt64.size) (calm : ∀ event ∈ events, ¬ event.Clears)
    (stays : (username, id) ∈ (g.run events).delayKeys) :
    Holding (g.run events) (n + g.heldCount events) username id
      (refused + g.reachCount username events) := by
  induction events generalizing g n refused with
  | nil => exact holding
  | cons event rest ih =>
    rw [heldCount, ← Nat.add_assoc] at few ⊢
    rw [reachCount, ← Nat.add_assoc]
    have first : n + g.holds event < UInt64.size := Nat.lt_of_le_of_lt (Nat.le_add_right _ _) few
    have tracked := holding.tracked.step_holds event first
    -- the delay runs at the end, and so it does now: its number was handed out before
    have old := holding.tracked.below _ holding.running
    have later := Nat.lt_of_lt_of_le old (holding.tracked.nextId_le_step first)
    have now : (username, id) ∈ (g.step event).delayKeys :=
      tracked.running_before_run few later stays
    have next := holding.step first (calm event List.mem_cons_self) now
    exact ih next few (fun after member => calm after (List.mem_cons_of_mem _ member)) stays

end Holding

theorem holding_of_delayed {g : Guard} {n : Nat} (tracked : Tracked g n) {event : AuthEvent}
    {random : Nat} {id : UInt64} (delayed : (g.attempt event random).1 = .delayed id)
    (few : n + 1 < UInt64.size) {raw : String} (written : event.username = some raw) :
    Holding (g.step (.attempt event random)) (n + 1) (trimmed raw) id 0 := by
  have holds := holds_of_delayed delayed
  have next : Tracked (g.step (.attempt event random)) (n + 1) := by
    rw [← holds] at few ⊢
    exact tracked.step_holds _ few
  dsimp only [step] at next ⊢
  have decided := attempt_decides g event random
  rw [delayed] at decided
  generalize (g.attempt event random).2 = after at decided next ⊢
  cases decided with
  | @delayed username considered named free =>
    obtain ⟨same, nonblank⟩ := AuthEvent.principal?_eq_some_iff.mp named
    rw [written, Option.map_some] at same
    obtain rfl := Option.some.inj same
    exact ⟨next, considered.opened, nonblank, entry?_hold_self free random⟩

/-- What attempts come to while the attempt with a number holds back a username and so many others
for it have been refused. -/
structure Refuses (g : Guard) (username : String) (id : UInt64) (refused : Nat) : Prop where
  same : ∀ event random, g.Reaches username event →
    (g.attempt event random).1 = .rejected (.concurrent username (UInt32.ofNat (refused + 1)))
  /-- An attempt for another username is refused so only while one of its own is held back. -/
  others : ∀ event random name count, event.username.map trimmed ≠ some username →
    (g.attempt event random).1 = .rejected (.concurrent name count) →
      event.username.map trimmed = some name ∧ ∃ d ∈ g.running, d.username = name ∧ d.id ≠ id

theorem Holding.refuses_all {g : Guard} {n : Nat} {username : String} {id : UInt64} {refused : Nat}
    (holding : Holding g n username id refused) : Refuses g username id refused := by
  constructor
  case same =>
    intro event random reaches
    exact congrArg Prod.fst (holding.refuses reaches random)
  case others =>
    intro event random name count different outcome
    have decided := attempt_decides g event random
    rw [outcome] at decided
    generalize (g.attempt event random).2 = after at decided
    cases decided with
    | @concurrent _ entry considered named found =>
      obtain ⟨same, _⟩ := AuthEvent.principal?_eq_some_iff.mp named
      have listed := List.mem_map_of_mem (f := TrackerEntry.key) (List.mem_of_find?_eq_some found)
      obtain ⟨d, running, key⟩ := List.mem_map.mp (holding.tracked.owned _ listed)
      have owner : d.username = name := (congrArg Prod.fst key).trans (entry?_username found)
      refine ⟨same, d, running, owner, ?_⟩
      rintro rfl
      -- one number, one delay: the other attempt would be for this very username
      have one := List.inj_on_of_nodup_map holding.tracked.numbers (List.mem_map_of_mem running)
        holding.running rfl
      exact different (same.trans (congrArg (some ·.1) one ▸ owner ▸ rfl))

/-- From the start of a delay until it ends, with neither reset nor shutdown in between, the k-th
further attempt for the username that reaches the guard is refused with the count k, and no attempt
for another username is refused because of it. -/
theorem held_username_refused {config : BruteForceConfig} {start : Guard}
    {before after : List GuardEvent} {first : AuthEvent} {random : Nat} {raw : String} {id : UInt64}
    (started : ofConfig config = .ok start)
    (few : start.heldCount (before ++ .attempt first random :: after) < UInt64.size)
    (written : first.username = some raw)
    (delayed : ((start.run before).attempt first random).1 = .delayed id)
    (calm : ∀ event ∈ after, ¬ event.Clears)
    (running : ∃ d ∈ (start.run (before ++ .attempt first random :: after)).running, d.id = id) :
    Refuses (start.run (before ++ .attempt first random :: after)) (trimmed raw) id
      (((start.run before).step (.attempt first random)).reachCount (trimmed raw) after) := by
  have fresh : Tracked start 0 := tracked_ofConfig started
  rw [heldCount_append, heldCount, holds_of_delayed delayed, ← Nat.add_assoc] at few
  have now : start.heldCount before + 1 < UInt64.size :=
    Nat.lt_of_le_of_lt (Nat.le_add_right _ _) few
  have earlier : Tracked (start.run before) (start.heldCount before) := by
    have tracked := fresh.run_heldCount before (by omega)
    rwa [Nat.zero_add] at tracked
  have holding := holding_of_delayed earlier delayed now written
  rw [run_append] at running ⊢
  obtain ⟨d, stays, rfl⟩ := running
  have listed : d.key ∈ (((start.run before).step (.attempt first random)).run after).delayKeys :=
    List.mem_map_of_mem stays
  have old : d.key.2.toNat < ((start.run before).step (.attempt first random)).nextId.toNat :=
    holding.tracked.below (trimmed raw, d.id) holding.running
  have since := holding.tracked.running_before_run few old listed
  have key : d.key = (trimmed raw, d.id) :=
    List.inj_on_of_nodup_map holding.tracked.numbers since holding.running rfl
  rw [key] at listed
  have kept := holding.run few calm listed
  rw [Nat.zero_add] at kept
  exact kept.refuses_all

/-- Between two attempts for " alice " and "alice" lies one for another username, and the settings
change in a way that does not concern her. -/
theorem held_username_refused_spaces :
    let failure (username : String) : AuthEvent :=
      { kind := .badCredentials, username := some username }
    let config : BruteForceConfig := { whitelist := [] }
    let after : List GuardEvent :=
      [.attempt (failure "bob") 3, .attempt { kind := .success, username := some "alice\n" } 0,
        .attempt (failure "bob") 0, .reconfigure { config with minDelay := 10 }, .wait 60]
    let events : List GuardEvent := .attempt (failure " alice ") 0 :: after
    ∃ start, ofConfig config = .ok start ∧ start.heldCount events < UInt64.size ∧
      (failure " alice ").username = some " alice " ∧
      (start.attempt (failure " alice ") 0).1 = .delayed 0 ∧
      (∀ event ∈ after, ¬ event.Clears) ∧ (∃ d ∈ (start.run events).running, d.id = 0) ∧
      Refuses (start.run events) "alice" 0 1 := by
  intro failure config after events
  obtain ⟨start, started⟩ : ∃ start, ofConfig config = .ok start := ⟨_, rfl⟩
  have facts : start.heldCount events < UInt64.size ∧
      (start.attempt (failure " alice ") 0).1 = .delayed 0 ∧
      (∃ d ∈ (start.run events).running, d.id = 0) ∧
      (start.step (.attempt (failure " alice ") 0)).reachCount "alice" after = 1 := by
    obtain rfl := Except.ok.inj started
    decide +kernel
  obtain ⟨few, delayed, running, count⟩ := facts
  have calm : ∀ event ∈ after, ¬ event.Clears := by
    simp [after, GuardEvent.Clears]
  have name : trimmed " alice " = "alice" := by decide +kernel
  have refuses := @held_username_refused config start [] after (failure " alice ") 0 " alice " 0
    started few rfl delayed calm running
  rw [name] at refuses
  exact ⟨start, started, few, rfl, delayed, calm, running, count ▸ refuses⟩

end Guard
end MapGate
