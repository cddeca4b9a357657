import MapGate.Auth.Event
import MapGate.Auth.Whitelist
import MapGate.Config.BruteForce
import MapGate.Text.Quoted

/-!
The brute-force guard. A credential failure is held back for a random delay, and while it is, every
further attempt for the same username is refused. The number of usernames held back at once is
capped. Success, other failures and whitelisted sources pass.

The guard is a state with a clock of its own. An attempt is decided at once; if it is held back, its
delay stays in the state until it is over, cancelled, or released by a shutdown. The tracker is kept
apart from the running delays, since a reset empties it while delays go on.
-/
namespace MapGate

@[ext]
structure GuardSettings where
  enabled : Bool
  minDelay : Nat
  maxDelay : Nat
  maxBlocked : Nat
  whitelist : Whitelist
  min_le_max : minDelay ≤ maxDelay

namespace GuardSettings

/-- The settings of a configuration. The bounds of the delay may be given in either order. -/
def ofConfig (config : BruteForceConfig) : Except WhitelistError GuardSettings :=
  match Whitelist.parse config.whitelist with
  | .error e => .error e
  | .ok whitelist => .ok {
      enabled := config.enabled
      minDelay := min config.minDelay.toNat config.maxDelay.toNat
      maxDelay := max config.minDelay.toNat config.maxDelay.toNat
      maxBlocked := config.maxBlocked.toNat
      whitelist := whitelist
      min_le_max := by omega }

/-- A delay between the bounds, drawn with a random number. -/
def drawDelay (s : GuardSettings) (random : Nat) : Nat :=
  s.minDelay + random % (s.maxDelay - s.minDelay + 1)

def describe (s : GuardSettings) : String :=
  "GuardSettings \x7b enabled: " ++ Text.ofBool s.enabled ++
  ", min_delay_ms: " ++ toString s.minDelay ++
  ", max_delay_ms: " ++ toString s.maxDelay ++
  ", max_blocked_threads: " ++ toString s.maxBlocked ++
  ", whitelist: " ++ s.whitelist.describe ++ " \x7d"

/-- Settings that are in every field what a configuration asks for. -/
structure Follows (s : GuardSettings) (config : BruteForceConfig) : Prop where
  enabled : s.enabled = config.enabled
  minDelay : s.minDelay = min config.minDelay.toNat config.maxDelay.toNat
  maxDelay : s.maxDelay = max config.minDelay.toNat config.maxDelay.toNat
  maxBlocked : s.maxBlocked = config.maxBlocked.toNat
  whitelist : Whitelist.parse config.whitelist = .ok s.whitelist

theorem ofConfig_eq_ok_iff {config : BruteForceConfig} {s : GuardSettings} :
    ofConfig config = .ok s ↔ s.Follows config := by
  unfold ofConfig
  constructor
  · intro read
    split at read
    case h_1 => contradiction
    case h_2 whitelist parsed =>
      obtain rfl := Except.ok.inj read
      exact ⟨rfl, rfl, rfl, rfl, parsed⟩
  · intro follows
    rw [follows.whitelist]
    refine congrArg Except.ok (GuardSettings.ext ?_ ?_ ?_ ?_ rfl)
    · exact follows.enabled.symm
    · exact follows.minDelay.symm
    · exact follows.maxDelay.symm
    · exact follows.maxBlocked.symm

theorem ofConfig_eq_error_iff {config : BruteForceConfig} {e : WhitelistError} :
    ofConfig config = .error e ↔ Whitelist.parse config.whitelist = .error e := by
  unfold ofConfig
  cases Whitelist.parse config.whitelist <;> simp

theorem drawDelay_mem (s : GuardSettings) (random : Nat) :
    s.minDelay ≤ s.drawDelay random ∧ s.drawDelay random ≤ s.maxDelay := by
  have := Nat.mod_lt random (show 0 < s.maxDelay - s.minDelay + 1 by omega)
  have := s.min_le_max
  unfold drawDelay
  omega

end GuardSettings

inductive Bypass where
  | disabled
  | whitelisted
  | noUsername
  | notAFailure
deriving DecidableEq, Repr

inductive Rejection where
  /-- A failed login for this username is being delayed; `count` attempts came before this one. -/
  | concurrent (username : String) (count : UInt32)
  /-- As many usernames as allowed are being delayed. -/
  | tooManyBlocked (max : Nat)
deriving DecidableEq, Repr

def Rejection.message : Rejection → String
  | concurrent username count =>
    "concurrent authentication attempt for user '" ++ username ++ "' (" ++ toString count ++
      " so far)"
  | tooManyBlocked max =>
    "too many failed logins are being delayed (max " ++ toString max ++ ")"

/-- The entry of a username that is being delayed: the attempt it belongs to, and how many attempts
there were for it, that one included. -/
structure TrackerEntry where
  username : String
  id : UInt64
  attempts : UInt32
deriving DecidableEq, Repr

structure Delay where
  username : String
  id : UInt64
  started : Nat
  length : Nat
deriving DecidableEq, Repr

structure Guard where
  settings : GuardSettings
  tracker : List TrackerEntry := []
  nextId : UInt64 := 0
  shutDown : Bool := false
  now : Nat := 0
  running : List Delay := []

/-- What becomes of an attempt at once. -/
inductive Verdict where
  | passed (why : Bypass)
  | rejected (why : Rejection)
  | delayed (id : UInt64)
deriving DecidableEq, Repr

/-- The end of a delay after a time of waiting. -/
structure Ending where
  id : UInt64
  waited : Nat
deriving DecidableEq, Repr

namespace Guard

def ofConfig (config : BruteForceConfig) : Except WhitelistError Guard :=
  (GuardSettings.ofConfig config).map fun settings => { settings }

def entry? (g : Guard) (username : String) : Option TrackerEntry :=
  g.tracker.find? fun e => e.username == username

def isTracked (g : Guard) (username : String) : Bool := (g.entry? username).isSome

def trackedCount (g : Guard) : Nat := g.tracker.length

def countAttempt (tracker : List TrackerEntry) (username : String) : List TrackerEntry :=
  tracker.map fun e =>
    if e.username == username then { e with attempts := e.attempts + 1 } else e

def exempts (g : Guard) (event : AuthEvent) : Bool :=
  match event.source with
  | some a => g.settings.whitelist.contains a
  | none => false

/-- Holds an attempt back: it gets the next number, an entry and a running delay. -/
def hold (g : Guard) (username : String) (random : Nat) : Guard :=
  { g with
    tracker := g.tracker ++ [⟨username, g.nextId, 1⟩]
    nextId := g.nextId + 1
    running := g.running ++ [⟨username, g.nextId, g.now, g.settings.drawDelay random⟩] }

/-- Decides one attempt. `random` is the number the delay would be drawn with. -/
def attempt (g : Guard) (event : AuthEvent) (random : Nat) : Verdict × Guard :=
  if !g.settings.enabled || g.shutDown then (.passed .disabled, g)
  else if g.exempts event then (.passed .whitelisted, g)
  else match event.principal? with
    | none => (.passed .noUsername, g)
    | some username =>
      match g.entry? username with
      | some entry =>
        (.rejected (.concurrent username entry.attempts),
          { g with tracker := countAttempt g.tracker username })
      | none =>
        if !event.kind.isCredentialFailure then (.passed .notAFailure, g)
        else if 0 < g.settings.maxBlocked ∧ g.settings.maxBlocked ≤ g.trackedCount then
          (.rejected (.tooManyBlocked g.settings.maxBlocked), g)
        else (.delayed g.nextId, g.hold username random)

/-- Removes the entries that belong to ended attempts; an entry that a newer attempt took over
stays. -/
def release (tracker : List TrackerEntry) (ended : List Delay) : List TrackerEntry :=
  tracker.filter fun e => !ended.any fun d => d.username == e.username && d.id == e.id

def finish (g : Guard) (ends : Delay → Bool) : Guard :=
  { g with
    tracker := release g.tracker (g.running.filter ends)
    running := g.running.filter fun d => !ends d }

def isDue (now : Nat) (d : Delay) : Bool := d.started + d.length ≤ now

/-- Lets time pass. Delays whose time comes meanwhile end after exactly their length. -/
def elapse (g : Guard) (time : Nat) : List Ending × Guard :=
  let later := g.now + time
  ((g.running.filter (isDue later)).map fun d => ⟨d.id, d.length⟩,
    { g.finish (isDue later) with now := later })

def cancel (g : Guard) (id : UInt64) : Guard := g.finish fun d => d.id == id

/-- Forgets every tracked username. Running delays go on. -/
def reset (g : Guard) : Guard := { g with tracker := [] }

/-- Releases all delays and lets every later attempt pass. -/
def shutdown (g : Guard) : List Ending × Guard :=
  (g.running.map fun d => ⟨d.id, g.now - d.started⟩,
    { g with tracker := [], running := [], shutDown := true })

def reconfigure (g : Guard) (config : BruteForceConfig) : Except WhitelistError Guard :=
  (GuardSettings.ofConfig config).map fun settings => { g with settings }

def describe (g : Guard) : String :=
  "BruteForceGuard \x7b settings: " ++ g.settings.describe ++
  ", tracked: " ++ toString g.trackedCount ++
  ", shut_down: " ++ Text.ofBool g.shutDown ++ " \x7d"

end Guard
end MapGate
