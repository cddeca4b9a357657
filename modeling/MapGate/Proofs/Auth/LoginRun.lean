import MapGate.Proofs.Auth.Refusal

/-!
Logins as their users see them. An attempt is known by its username and by how many attempts for
that username came before it; its number, which the guard hands out to all usernames alike, is
looked up in a log of the attempts so far. The log has the numbers of all running delays, and gives
no number to two usernames.
-/
namespace MapGate

/-- What happens to a guard, with attempts called by the username and their place among those for
it. -/
inductive LoginEvent where
  | attempt (event : AuthEvent) (random : Nat)
  | wake (username : String) (place : Nat)
  | cancel (username : String) (place : Nat)
  | elapse (time : Nat)
  | wait (time : Nat)
  | reset
  | shutdown
  | reconfigure (config : BruteForceConfig)
deriving DecidableEq

namespace LoginEvent

def attempts : LoginEvent → Nat
  | attempt _ _ => 1
  | _ => 0

def attemptsIn : List LoginEvent → Nat
  | [] => 0
  | event :: rest => event.attempts + attemptsIn rest

/-- Whether an event is about a username or about the guard as a whole. -/
def concerns (username : String) : LoginEvent → Bool
  | attempt event _ => event.username.map trimmed == some username
  | wake name _ => trimmed name == username
  | cancel name _ => trimmed name == username
  | _ => true

end LoginEvent

def Verdict.number? : Verdict → Option UInt64
  | passed _ => none
  | rejected _ => none
  | delayed id => some id

/-- An attempt for a trimmed username, with its number if it was held back. -/
structure LoggedAttempt where
  name : Option String
  number : Option UInt64
deriving DecidableEq

structure LoginState where
  guard : Guard
  log : List LoggedAttempt := []

namespace LoginState

def attemptsOf (l : LoginState) (username : String) : List LoggedAttempt :=
  l.log.filter fun a => a.name == some username

def number? (l : LoginState) (username : String) (place : Nat) : Option UInt64 :=
  (l.attemptsOf (trimmed username))[place]?.bind LoggedAttempt.number

/-- The event for the guard; there is none for an attempt that was not held back. -/
def resolve (l : LoginState) : LoginEvent → Option GuardEvent
  | .attempt event random => some (.attempt event random)
  | .wake name place => (l.number? name place).map .wake
  | .cancel name place => (l.number? name place).map .cancel
  | .elapse time => some (.elapse time)
  | .wait time => some (.wait time)
  | .reset => some .reset
  | .shutdown => some .shutdown
  | .reconfigure config => some (.reconfigure config)

def logged (l : LoginState) : LoginEvent → List LoggedAttempt
  | .attempt event random =>
    [⟨event.username.map trimmed, (l.guard.attempt event random).1.number?⟩]
  | _ => []

def step (l : LoginState) (event : LoginEvent) : LoginState where
  guard := (l.resolve event).elim l.guard l.guard.step
  log := l.log ++ l.logged event

def run (l : LoginState) (events : List LoginEvent) : LoginState := events.foldl step l

/-- How the log belongs to the guard after at most `n` attempts. -/
structure Logged (l : LoginState) (n : Nat) : Prop where
  tracked : l.guard.Tracked n
  delays : ∀ key ∈ l.guard.delayKeys, ⟨some key.1, some key.2⟩ ∈ l.log
  owner : ∀ a ∈ l.log, ∀ b ∈ l.log, a.number = b.number → a.number ≠ none → a.name = b.name
  below : ∀ a ∈ l.log, ∀ id ∈ a.number, id.toNat < l.guard.nextId.toNat
  length : l.log.length ≤ n

theorem resolve_attempts {l : LoginState} {event : LoginEvent} {resolved : GuardEvent}
    (found : l.resolve event = some resolved) : resolved.attempts = event.attempts := by
  cases event with
  | wake name place | cancel name place =>
    obtain ⟨id, _, rfl⟩ := Option.map_eq_some_iff.mp found
    rfl
  | _ =>
    obtain rfl := Option.some.inj found
    rfl

theorem logged_quiet (l : LoginState) {event : LoginEvent} (quiet : event.attempts = 0) :
    l.logged event = [] := by
  cases event with
  | attempt => contradiction
  | _ => rfl

/-- Without an attempt, delays may end but none is started. -/
theorem quiet_step {g : Guard} {event : GuardEvent} (quiet : event.attempts = 0) :
    (∀ key ∈ (g.step event).delayKeys, key ∈ g.delayKeys) ∧ (g.step event).nextId = g.nextId := by
  cases Guard.step_effect g event with
  | kept _ delays number => exact ⟨fun key => by rw [delays]; exact id, number⟩
  | held _ attempt =>
    rw [quiet] at attempt
    contradiction
  | ended gone _ delays number =>
    exact ⟨fun key member => delays.mem_iff.mp (List.mem_append_right gone member), number⟩
  | cleared _ _ delays number => exact ⟨fun key member => delays.subset member, number⟩

theorem logged_start (settings : GuardSettings) : Logged { guard := { settings } } 0 where
  tracked := Guard.tracked_start settings
  delays key running := by simp [Guard.delayKeys] at running
  owner a listed := by simp at listed
  below a listed := by simp at listed
  length := Nat.le_refl 0

namespace Logged

variable {l : LoginState} {n : Nat}

theorem unnumbered (logged : Logged l n) {guard : Guard} {more : List LoggedAttempt} {m : Nat}
    (tracked : guard.Tracked m) (delays : ∀ key ∈ guard.delayKeys, key ∈ l.guard.delayKeys)
    (number : guard.nextId = l.guard.nextId) (none : ∀ a ∈ more, a.number = none)
    (length : (l.log ++ more).length ≤ m) : Logged ⟨guard, l.log ++ more⟩ m := by
  -- what has a number was logged before
  have old : ∀ a ∈ l.log ++ more, a.number ≠ Option.none → a ∈ l.log := by
    intro a member numbered
    exact (List.mem_append.mp member).resolve_right fun new => numbered (none a new)
  constructor
  case tracked => exact tracked
  case delays =>
    intro key running
    exact List.mem_append_left _ (logged.delays key (delays key running))
  case owner =>
    intro a first b second same numbered
    exact logged.owner a (old a first numbered) b (old b second (same ▸ numbered)) same numbered
  case below =>
    intro a member id known
    rw [number]
    exact logged.below a (old a member (by simp [Option.mem_def.mp known])) id known
  case length => exact length

theorem held (logged : Logged l n) (few : n + 1 < UInt64.size) {username : String} {random : Nat}
    (tracked : (l.guard.hold username random).Tracked (n + 1)) :
    Logged ⟨l.guard.hold username random, l.log ++ [⟨some username, some l.guard.nextId⟩]⟩
      (n + 1) := by
  have next := logged.tracked.next_number few
  -- the count has not come round, so no earlier attempt has this number
  have fresh : ∀ a ∈ l.log, a.number ≠ some l.guard.nextId := by
    intro a member same
    exact Nat.lt_irrefl _ (logged.below a member _ same)
  constructor
  case tracked => exact tracked
  case delays =>
    intro key running
    rw [Guard.delayKeys, Guard.hold, List.map_append] at running
    rcases List.mem_append.mp running with old | new
    · exact List.mem_append_left _ (logged.delays key old)
    · obtain rfl := List.mem_singleton.mp new
      exact List.mem_append_right _ (List.mem_singleton_self _)
  case owner =>
    intro a first b second same numbered
    simp only [List.mem_append, List.mem_singleton] at first second
    rcases first with first | rfl <;> rcases second with second | rfl
    · exact logged.owner a first b second same numbered
    · exact absurd same (fresh a first)
    · exact absurd same.symm (fresh b second)
    · rfl
  case below =>
    intro a member id known
    dsimp only [Guard.hold]
    rw [next]
    rcases List.mem_append.mp member with old | new
    · exact Nat.lt_succ_of_lt (logged.below a old id known)
    · obtain rfl := List.mem_singleton.mp new
      obtain rfl := Option.some.inj known
      exact Nat.lt_succ_self _
  case length => simpa using logged.length

theorem attempt (logged : Logged l n) (few : n + 1 < UInt64.size) (event : AuthEvent)
    (random : Nat) : Logged (l.step (.attempt event random)) (n + 1) := by
  have tracked := logged.tracked.step (.attempt event random) few
  have length (entry : LoggedAttempt) : (l.log ++ [entry]).length ≤ n + 1 := by
    simpa using logged.length
  have decided := Guard.attempt_decides l.guard event random
  dsimp only [LoginState.step, resolve, LoginState.logged, Option.elim]
  dsimp only [Guard.step] at tracked ⊢
  generalize (l.guard.attempt event random).1 = verdict,
    (l.guard.attempt event random).2 = after at decided tracked ⊢
  cases decided with
  | disabled | whitelisted | noUsername | notAFailure | tooManyBlocked | concurrent =>
    exact logged.unnumbered tracked (fun key running => running) rfl (by simp [Verdict.number?])
      (length _)
  | delayed considered named =>
    rw [(AuthEvent.principal?_eq_some_iff.mp named).1]
    exact logged.held few tracked

theorem quiet (logged : Logged l n) {event : LoginEvent} (quiet : event.attempts = 0)
    (few : n < UInt64.size) : Logged (l.step event) n := by
  have length : (l.log ++ []).length ≤ n := by simpa using logged.length
  have none : ∀ a ∈ ([] : List LoggedAttempt), a.number = none := by simp
  rw [LoginState.step, l.logged_quiet quiet]
  cases found : l.resolve event with
  | none => exact logged.unnumbered logged.tracked (fun key running => running) rfl none length
  | some resolved =>
    have still : resolved.attempts = 0 := (resolve_attempts found).trans quiet
    obtain ⟨delays, number⟩ := quiet_step (g := l.guard) still
    have tracked := logged.tracked.step resolved (by rw [still]; exact few)
    rw [still] at tracked
    exact logged.unnumbered tracked delays number none length

theorem step (logged : Logged l n) (event : LoginEvent) (few : n + event.attempts < UInt64.size) :
    Logged (l.step event) (n + event.attempts) := by
  cases event with
  | attempt event random => exact logged.attempt few event random
  | _ => exact logged.quiet rfl few

end Logged

end LoginState
end MapGate
