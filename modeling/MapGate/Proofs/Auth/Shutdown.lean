import MapGate.Proofs.Auth.RunningDelays

/-!
A shutdown of the guard is final. The delays in progress end with it, each after the time since its
attempt, and whatever happens from then on, new settings included, nothing is held back, refused or
tracked: every attempt passes as it does through a disabled guard. A delay is in progress from the
attempt that started it until its end is reported or it is cancelled.
-/
namespace MapGate
namespace Guard

/-- An attempt among some events was held back under this number at this time, and since then its
end was not reported and it was not cancelled. -/
def InProgress (start : Guard) (events : List GuardEvent) (id : UInt64) (since : Nat) : Prop :=
  ∃ before event random after, events = before ++ .attempt event random :: after ∧
    ((start.run before).attempt event random).1 = .delayed id ∧ (start.run before).now = since ∧
    .cancel id ∉ after ∧
    ∀ ending ∈ ((start.run before).step (.attempt event random)).endingsIn after, ending.id ≠ id

theorem running_of_delayed {g : Guard} {event : AuthEvent} {random : Nat} {id : UInt64}
    (delayed : (g.attempt event random).1 = .delayed id) :
    ∃ d ∈ (g.step (.attempt event random)).running, d.id = id ∧ d.started = g.now := by
  obtain ⟨username, held⟩ := startOf_delayed delayed
  rw [step_running, held]
  exact ⟨_, List.mem_append_right _ (List.mem_singleton_self _), rfl, rfl⟩

/-- A running delay goes on unless the event ends or cancels it. -/
theorem running_step {g : Guard} {event : GuardEvent} {d : Delay} (running : d ∈ g.running)
    (uncancelled : event ≠ .cancel d.id) (unended : ∀ ending ∈ g.endings event, ending.id ≠ d.id) :
    d ∈ (g.step event).running := by
  rw [step_running]
  refine List.mem_append_left _ (List.mem_filter.mpr ⟨running, ?_⟩)
  cases ended : g.endOf event d with
  | none => rfl
  | some fin =>
    have unheard (ending : Ending) (heard : fin.report d = some ending) : ending.id ≠ d.id := by
      apply unended
      rw [endings_eq, List.mem_filterMap]
      exact ⟨d, running, by rw [ended]; exact heard⟩
    cases endOf_eq_some_iff.mp ended with
    | cancel => exact absurd rfl uncancelled
    | shutdown | elapse | wake => exact absurd rfl (unheard _ rfl)

theorem running_run {g : Guard} {events : List GuardEvent} {d : Delay} (running : d ∈ g.running)
    (uncancelled : .cancel d.id ∉ events)
    (unended : ∀ ending ∈ g.endingsIn events, ending.id ≠ d.id) : d ∈ (g.run events).running := by
  induction events generalizing g with
  | nil => exact running
  | cons event rest ih =>
    obtain ⟨now, later⟩ := not_or.mp (mt List.mem_cons.mpr uncancelled)
    rw [endingsIn, List.forall_mem_append] at unended
    exact ih (running_step running (Ne.symm now) unended.1) later unended.2

theorem running_of_inProgress {start : Guard} {events : List GuardEvent} {id : UInt64} {since : Nat}
    (progress : InProgress start events id since) :
    ∃ d ∈ (start.run events).running, d.id = id ∧ d.started = since := by
  obtain ⟨before, event, random, after, rfl, delayed, rfl, uncancelled, unended⟩ := progress
  obtain ⟨d, running, rfl, started⟩ := running_of_delayed delayed
  have goesOn := running_run running uncancelled unended
  rw [run_append]
  exact ⟨d, goesOn, rfl, started⟩

/-- A guard that was shut down and has nothing to do. -/
structure Dormant (g : Guard) : Prop where
  shutDown : g.shutDown = true
  running : g.running = []
  tracker : g.tracker = []

theorem dormant_shutdown (g : Guard) : (g.step .shutdown).Dormant := ⟨rfl, rfl, rfl⟩

namespace Dormant

variable {g : Guard} (dormant : g.Dormant)

include dormant

theorem attempt (event : AuthEvent) (random : Nat) :
    g.attempt event random = (.passed .disabled, g) := by
  simp [Guard.attempt, dormant.shutDown]

theorem finish (ends : Delay → Bool) : (g.finish ends).Dormant where
  shutDown := dormant.shutDown
  running := by simp [Guard.finish, dormant.running]
  tracker := by simp [Guard.finish, release, dormant.tracker]

theorem step (event : GuardEvent) : (g.step event).Dormant := by
  cases event with
  | attempt event random =>
    rw [Guard.step, dormant.attempt]
    exact dormant
  | elapse time =>
    obtain ⟨shutDown, running, tracker⟩ := dormant.finish (isDue (g.now + time))
    exact ⟨shutDown, running, tracker⟩
  | wait time => exact ⟨dormant.shutDown, dormant.running, dormant.tracker⟩
  | wake id => exact dormant.finish _
  | cancel id => exact dormant.finish _
  | reset => exact ⟨dormant.shutDown, dormant.running, rfl⟩
  | shutdown => exact dormant_shutdown g
  | reconfigure config =>
    obtain ⟨settings, same⟩ := step_reconfigure g config
    rw [same]
    exact ⟨dormant.shutDown, dormant.running, dormant.tracker⟩

theorem run (events : List GuardEvent) : (g.run events).Dormant := by
  induction events generalizing g with
  | nil => exact dormant
  | cons event rest ih => exact ih (dormant.step event)

theorem holds (event : GuardEvent) : g.holds event = 0 := by
  cases event with
  | attempt event random => rw [Guard.holds, dormant.attempt]
  | _ => rfl

theorem heldCount (events : List GuardEvent) : g.heldCount events = 0 := by
  induction events generalizing g with
  | nil => rfl
  | cons event rest ih => rw [Guard.heldCount, dormant.holds, ih (dormant.step event)]

theorem endings (event : GuardEvent) : g.endings event = [] := by
  cases event with
  | elapse | wake | shutdown =>
    simp [Guard.endings, answer, Guard.elapse, Guard.shutdown, dormant.running]
  | attempt | wait | cancel | reset | reconfigure => rfl

theorem endingsIn (events : List GuardEvent) : g.endingsIn events = [] := by
  induction events generalizing g with
  | nil => rfl
  | cons event rest ih => rw [Guard.endingsIn, dormant.endings, ih (dormant.step event)]; rfl

end Dormant

/-- What becomes of a guard by a shutdown after some events, at once and in all that follows. -/
structure ShutForGood (start : Guard) (before after : List GuardEvent) : Prop where
  running : ∀ id since, InProgress start before id since →
    ∃ d ∈ (start.run before).running, d.id = id ∧ d.started = since
  released : (start.run before).endings .shutdown =
    (start.run before).running.map fun d => ⟨d.id, (start.run before).now - d.started⟩
  noneRuns : (start.run (before ++ .shutdown :: after)).running = []
  noneEnds : (start.run (before ++ [.shutdown])).endingsIn after = []
  noneHeld : (start.run (before ++ [.shutdown])).heldCount after = 0
  passes : ∀ event random,
    ((start.run (before ++ .shutdown :: after)).attempt event random).1 = .passed .disabled
  untracked : (start.run (before ++ .shutdown :: after)).trackedCount = 0

/-- A shutdown ends every delay in progress, and after it no sequence of events, changes of the
settings among them, makes the guard hold back, refuse or track an attempt. -/
theorem shutdown_final (start : Guard) (before after : List GuardEvent) :
    ShutForGood start before after := by
  have shut : (start.run (before ++ [.shutdown])).Dormant := by
    rw [run_append]
    exact dormant_shutdown _
  have still : (start.run (before ++ .shutdown :: after)).Dormant := by
    rw [List.append_cons, run_append]
    exact shut.run after
  constructor
  case running =>
    intro id since progress
    exact running_of_inProgress progress
  case released => rfl
  case noneRuns => exact still.running
  case noneEnds => exact shut.endingsIn after
  case noneHeld => exact shut.heldCount after
  case passes =>
    intro event random
    rw [still.attempt]
  case untracked =>
    rw [trackedCount, still.tracker]
    rfl

/-- Two delays are in progress, one of them without an entry since a reset; settings that come after
the shutdown do not bring the guard back. -/
theorem shutdown_final_reconfigured :
    let failure (username : String) : AuthEvent :=
      { kind := .badCredentials, username := some username }
    let config : BruteForceConfig := { whitelist := [] }
    let before : List GuardEvent :=
      [.attempt (failure "alice") 0, .wait 400, .reset, .attempt (failure "bob") 7, .wait 5]
    let after : List GuardEvent :=
      [.attempt (failure "alice") 0, .reconfigure { config with minDelay := 10 }, .wake 0,
        .attempt (failure "carol") 1]
    ∃ start, ofConfig config = .ok start ∧ InProgress start before 0 0 ∧
      InProgress start before 1 400 ∧
      (start.run before).endings .shutdown = [⟨0, 405⟩, ⟨1, 5⟩] ∧
      ShutForGood start before after := by
  intro failure config before after
  obtain ⟨start, started⟩ : ∃ start, ofConfig config = .ok start := ⟨_, rfl⟩
  have final := shutdown_final start before after
  obtain rfl := Except.ok.inj started
  refine ⟨_, rfl, ?alice, ?bob, ?ends, final⟩
  case alice =>
    exact ⟨[], failure "alice", 0, _, rfl, by decide +kernel, rfl, by simp, by decide +kernel⟩
  case bob =>
    exact ⟨[.attempt (failure "alice") 0, .wait 400, .reset], failure "bob", 7, _, rfl,
      by decide +kernel, by decide +kernel, by simp, by decide +kernel⟩
  case ends => decide +kernel

end Guard
end MapGate
