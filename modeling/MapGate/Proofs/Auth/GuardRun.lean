import MapGate.Auth.Guard

/-!
Runs of the brute-force guard. An event is an attempt, which is decided at once, or anything else
that happens to the guard. Besides `elapse`, which ends every delay whose time has come, time may
pass without the ends being noticed (`wait`), and each of them is then noticed on its own and
perhaps late (`wake`).

What one step does is told in terms of keys: the username and the number that an entry shares with
the delay it stands for.
-/
namespace MapGate

inductive GuardEvent where
  | attempt (event : AuthEvent) (random : Nat)
  | elapse (time : Nat)
  | wait (time : Nat)
  | wake (id : UInt64)
  | cancel (id : UInt64)
  | reset
  | shutdown
  | reconfigure (config : BruteForceConfig)

namespace GuardEvent

def Clears : GuardEvent → Prop
  | reset => True
  | shutdown => True
  | _ => False

def attempts : GuardEvent → Nat
  | attempt _ _ => 1
  | _ => 0

end GuardEvent

def attemptCount : List GuardEvent → Nat
  | [] => 0
  | event :: rest => event.attempts + attemptCount rest

theorem attemptCount_append (before after : List GuardEvent) :
    attemptCount (before ++ after) = attemptCount before + attemptCount after := by
  induction before with
  | nil => simp [attemptCount]
  | cons event rest ih =>
    simp only [List.cons_append, attemptCount]
    omega

def TrackerEntry.key (e : TrackerEntry) : String × UInt64 := (e.username, e.id)

def Delay.key (d : Delay) : String × UInt64 := (d.username, d.id)

inductive GuardAnswer where
  | verdict (verdict : Verdict)
  | ended (endings : List Ending)
  | reconfigured (result : Except WhitelistError Unit)
  | done

namespace Guard

def step (g : Guard) : GuardEvent → Guard
  | .attempt event random => (g.attempt event random).2
  | .elapse time => (g.elapse time).2
  | .wait time => { g with now := g.now + time }
  | .wake id => g.finish fun d => d.id == id && isDue g.now d
  | .cancel id => g.cancel id
  | .reset => g.reset
  | .shutdown => g.shutdown.2
  | .reconfigure config =>
    match g.reconfigure config with
    | .ok g => g
    | .error _ => g

def answer (g : Guard) : GuardEvent → GuardAnswer
  | .attempt event random => .verdict (g.attempt event random).1
  | .elapse time => .ended (g.elapse time).1
  | .wake id =>
    .ended ((g.running.filter fun d => d.id == id && isDue g.now d).map fun d =>
      ⟨d.id, g.now - d.started⟩)
  | .shutdown => .ended g.shutdown.1
  | .reconfigure config => .reconfigured ((g.reconfigure config).map fun _ => ())
  | .wait _ | .cancel _ | .reset => .done

def run (g : Guard) (events : List GuardEvent) : Guard := events.foldl step g

/-- New settings are all that a change of the settings, accepted or not, brings. -/
theorem step_reconfigure (g : Guard) (config : BruteForceConfig) :
    ∃ settings, g.step (.reconfigure config) = { g with settings } := by
  dsimp only [step, reconfigure]
  cases GuardSettings.ofConfig config with
  | ok settings => exact ⟨settings, rfl⟩
  | error e => exact ⟨g.settings, rfl⟩

theorem run_append (g : Guard) (before after : List GuardEvent) :
    g.run (before ++ after) = (g.run before).run after :=
  List.foldl_append

theorem ofConfig_eq_ok_iff {config : BruteForceConfig} {start : Guard} :
    ofConfig config = .ok start ↔
      ∃ settings, GuardSettings.ofConfig config = .ok settings ∧ start = { settings } := by
  unfold ofConfig
  cases GuardSettings.ofConfig config with
  | ok settings => simp [Except.map, eq_comm]
  | error e => simp [Except.map]

/-- Whether the guard looks at an event at all. -/
structure Considers (g : Guard) (event : AuthEvent) : Prop where
  enabled : g.settings.enabled = true
  opened : g.shutDown = false
  notExempt : g.exempts event = false

/-- Whether as many usernames are tracked as the settings allow. -/
def IsFull (g : Guard) : Prop :=
  0 < g.settings.maxBlocked ∧ g.settings.maxBlocked ≤ g.trackedCount

/-- What an attempt can come to, with the reasons for each outcome. -/
inductive Decides (g : Guard) (event : AuthEvent) (random : Nat) : Verdict → Guard → Prop where
  | disabled (off : g.settings.enabled = false ∨ g.shutDown = true) :
      Decides g event random (.passed .disabled) g
  | whitelisted (enabled : g.settings.enabled = true) (opened : g.shutDown = false)
      (exempt : g.exempts event = true) : Decides g event random (.passed .whitelisted) g
  | noUsername (considered : g.Considers event) (anonymous : event.principal? = none) :
      Decides g event random (.passed .noUsername) g
  | concurrent {username : String} {entry : TrackerEntry} (considered : g.Considers event)
      (named : event.principal? = some username) (found : g.entry? username = some entry) :
      Decides g event random (.rejected (.concurrent username entry.attempts))
        { g with tracker := countAttempt g.tracker username }
  | notAFailure {username : String} (considered : g.Considers event)
      (named : event.principal? = some username) (free : g.entry? username = none)
      (mild : event.kind.isCredentialFailure = false) :
      Decides g event random (.passed .notAFailure) g
  | tooManyBlocked {username : String} (considered : g.Considers event)
      (named : event.principal? = some username) (free : g.entry? username = none)
      (failed : event.kind.isCredentialFailure = true) (full : g.IsFull) :
      Decides g event random (.rejected (.tooManyBlocked g.settings.maxBlocked)) g
  | delayed {username : String} (considered : g.Considers event)
      (named : event.principal? = some username) (free : g.entry? username = none)
      (failed : event.kind.isCredentialFailure = true) (room : ¬ g.IsFull) :
      Decides g event random (.delayed g.nextId) (g.hold username random)

theorem attempt_decides (g : Guard) (event : AuthEvent) (random : Nat) :
    Decides g event random (g.attempt event random).1 (g.attempt event random).2 := by
  unfold attempt
  split
  case isTrue off => exact .disabled (by simpa using off)
  case isFalse on =>
    rw [Bool.or_eq_true, not_or, Bool.not_eq_true', Bool.not_eq_false, Bool.not_eq_true] at on
    split
    case isTrue exempt => exact .whitelisted on.1 on.2 exempt
    case isFalse subject =>
      have considered : g.Considers event := ⟨on.1, on.2, Bool.eq_false_iff.mpr subject⟩
      split
      case h_1 anonymous => exact .noUsername considered anonymous
      case h_2 username named =>
        split
        case h_1 entry found => exact .concurrent considered named found
        case h_2 free =>
          split
          case isTrue mild => exact .notAFailure considered named free (by simpa using mild)
          case isFalse failure =>
            have failed : event.kind.isCredentialFailure = true := by simpa using failure
            split
            case isTrue full => exact .tooManyBlocked considered named free failed full
            case isFalse room => exact .delayed considered named free failed room

theorem step_settings {g : Guard} {event : GuardEvent}
    (other : ∀ config, event ≠ .reconfigure config) : (g.step event).settings = g.settings := by
  cases event with
  | attempt event random =>
    have decided := attempt_decides g event random
    dsimp only [step]
    generalize (g.attempt event random).1 = verdict, (g.attempt event random).2 = after at decided ⊢
    cases decided <;> rfl
  | reconfigure config => exact absurd rfl (other config)
  | elapse | wait | wake | cancel | reset | shutdown => rfl

/-- How many delays an event starts. -/
def holds (g : Guard) : GuardEvent → Nat
  | .attempt event random =>
    match (g.attempt event random).1 with
    | .delayed _ => 1
    | _ => 0
  | _ => 0

/-- How many delays are started during some events. -/
def heldCount (g : Guard) : List GuardEvent → Nat
  | [] => 0
  | event :: rest => g.holds event + heldCount (g.step event) rest

theorem heldCount_append (g : Guard) (before after : List GuardEvent) :
    g.heldCount (before ++ after) = g.heldCount before + (g.run before).heldCount after := by
  induction before generalizing g with
  | nil => simp [heldCount, run]
  | cons event rest ih =>
    have later := ih (g.step event)
    simp only [List.cons_append, heldCount, later, Nat.add_assoc]
    rfl

theorem holds_le_attempts (g : Guard) (event : GuardEvent) : g.holds event ≤ event.attempts := by
  unfold holds
  split
  · split
    · exact Nat.le_refl 1
    · exact Nat.zero_le 1
  · exact Nat.zero_le _

theorem heldCount_le_attemptCount (g : Guard) (events : List GuardEvent) :
    g.heldCount events ≤ attemptCount events := by
  induction events generalizing g with
  | nil => exact Nat.le_refl 0
  | cons event rest ih => exact Nat.add_le_add (holds_le_attempts g event) (ih (g.step event))

theorem holds_of_delayed {g : Guard} {event : AuthEvent} {random : Nat} {id : UInt64}
    (delayed : (g.attempt event random).1 = .delayed id) : g.holds (.attempt event random) = 1 := by
  rw [holds, delayed]

theorem delayed_number {g : Guard} {event : AuthEvent} {random : Nat} {id : UInt64}
    (delayed : (g.attempt event random).1 = .delayed id) : id = g.nextId := by
  have decided := attempt_decides g event random
  rw [delayed] at decided
  generalize (g.attempt event random).2 = after at decided
  cases decided
  rfl

def entryKeys (g : Guard) : List (String × UInt64) := g.tracker.map TrackerEntry.key

def delayKeys (g : Guard) : List (String × UInt64) := g.running.map Delay.key

theorem countAttempt_keys (tracker : List TrackerEntry) (username : String) :
    (countAttempt tracker username).map TrackerEntry.key = tracker.map TrackerEntry.key := by
  unfold countAttempt
  rw [List.map_map]
  apply List.map_congr_left
  intro e _
  rw [Function.comp]
  split
  · rfl
  · rfl

theorem free_iff (g : Guard) (username : String) :
    g.entry? username = none ↔ username ∉ g.entryKeys.map Prod.fst := by
  unfold entry?
  simp [entryKeys, TrackerEntry.key]

theorem release_keys (tracker : List TrackerEntry) (ended : List Delay) :
    (release tracker ended).map TrackerEntry.key =
      (tracker.map TrackerEntry.key).filter (· ∉ ended.map Delay.key) := by
  unfold release
  rw [List.filter_map]
  congr 1
  apply List.filter_congr
  intro e _
  rw [Function.comp, Bool.eq_iff_iff]
  simp [TrackerEntry.key, Delay.key]

/-- Delays that end are running until then. -/
theorem finish_delays (g : Guard) (ends : Delay → Bool) :
    ((g.running.filter ends).map Delay.key ++ (g.finish ends).delayKeys).Perm g.delayKeys := by
  unfold delayKeys
  rw [← List.map_append]
  exact (List.filter_append_perm ends g.running).map Delay.key

/-- What one step does to the entries and the running delays. -/
inductive Effect (g : Guard) (event : GuardEvent) (after : Guard) : Prop where
  | kept (entries : after.entryKeys = g.entryKeys) (delays : after.delayKeys = g.delayKeys)
      (number : after.nextId = g.nextId)
  | held (username : String) (attempt : event.attempts = 1)
      (free : username ∉ g.entryKeys.map Prod.fst)
      (entries : after.entryKeys = g.entryKeys ++ [(username, g.nextId)])
      (delays : after.delayKeys = g.delayKeys ++ [(username, g.nextId)])
      (number : after.nextId = g.nextId + 1) (holds : g.holds event = 1) (room : ¬ g.IsFull)
  | ended (gone : List (String × UInt64))
      (entries : after.entryKeys = g.entryKeys.filter (· ∉ gone))
      (delays : (gone ++ after.delayKeys).Perm g.delayKeys) (number : after.nextId = g.nextId)
  | cleared (clears : event.Clears) (entries : after.entryKeys = [])
      (delays : after.delayKeys.Sublist g.delayKeys) (number : after.nextId = g.nextId)

theorem finish_effect {g after : Guard} {event : GuardEvent} (ends : Delay → Bool)
    (tracker : after.tracker = (g.finish ends).tracker)
    (running : after.running = (g.finish ends).running) (number : after.nextId = g.nextId) :
    Effect g event after := by
  refine .ended ((g.running.filter ends).map Delay.key) ?_ ?_ number
  · unfold entryKeys
    rw [tracker]
    exact release_keys g.tracker (g.running.filter ends)
  · have delays : after.delayKeys = (g.finish ends).delayKeys := congrArg (List.map _) running
    rw [delays]
    exact finish_delays g ends

theorem attempt_effect (g : Guard) (event : AuthEvent) (random : Nat) :
    Effect g (.attempt event random) (g.attempt event random).2 := by
  have decided := attempt_decides g event random
  generalize outcome : (g.attempt event random).1 = verdict at decided
  generalize (g.attempt event random).2 = after at decided ⊢
  cases decided with
  | disabled | whitelisted | noUsername | notAFailure | tooManyBlocked => exact .kept rfl rfl rfl
  | concurrent => exact .kept (countAttempt_keys _ _) rfl rfl
  | @delayed username considered named free failed room =>
    refine .held username rfl ((free_iff g username).mp free) ?_ ?_ rfl
      (holds_of_delayed outcome) room
    · simp [entryKeys, hold, TrackerEntry.key]
    · simp [delayKeys, hold, Delay.key]

theorem step_effect (g : Guard) (event : GuardEvent) : Effect g event (g.step event) := by
  cases event with
  | attempt event random => exact attempt_effect g event random
  | elapse time => exact finish_effect (isDue (g.now + time)) rfl rfl rfl
  | wait time => exact .kept rfl rfl rfl
  | wake id => exact finish_effect (fun d => d.id == id && isDue g.now d) rfl rfl rfl
  | cancel id => exact finish_effect (fun d => d.id == id) rfl rfl rfl
  | reset => exact .cleared trivial rfl (List.Sublist.refl _) rfl
  | shutdown => exact .cleared trivial rfl (List.nil_sublist _) rfl
  | reconfigure config =>
    obtain ⟨settings, same⟩ := step_reconfigure g config
    rw [same]
    exact .kept rfl rfl rfl

end Guard
end MapGate
