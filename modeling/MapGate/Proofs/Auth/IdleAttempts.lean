import Mathlib.Data.List.Nodup
import MapGate.Proofs.Auth.GuardRun

/-!
What attempts leave behind. An attempt that passes, or that is refused because too many usernames
are held back, leaves the guard as it finds it, and so such attempts may be left out of a run
without a trace: every other event finds the same guard. A refusal because of the attempt's own
username counts in the entry of that username and nowhere else, and a delay comes with one new
entry.
-/
namespace MapGate

/-- Whether an attempt was let through or refused for want of room. -/
def Verdict.isIdle : Verdict → Bool
  | passed _ => true
  | rejected (.tooManyBlocked _) => true
  | _ => false

def GuardAnswer.isIdle : GuardAnswer → Bool
  | verdict v => v.isIdle
  | _ => false

/-- A list without its members at some places. -/
def leaveOut {α : Type} (gone : Nat → Bool) : List α → List α
  | [] => []
  | x :: rest =>
    if gone 0 then leaveOut (fun place => gone (place + 1)) rest
    else x :: leaveOut (fun place => gone (place + 1)) rest

namespace Guard

/-- What the guard answers to events, one after the other. -/
def answers (g : Guard) : List GuardEvent → List GuardAnswer
  | [] => []
  | event :: rest => g.answer event :: answers (g.step event) rest

theorem answers_append (g : Guard) (before after : List GuardEvent) :
    g.answers (before ++ after) = g.answers before ++ (g.run before).answers after := by
  induction before generalizing g with
  | nil => rfl
  | cons event rest ih =>
    rw [List.cons_append, answers, answers, List.cons_append, ih]
    rfl

theorem attempt_idle {g : Guard} {event : AuthEvent} {random : Nat}
    (idle : (g.attempt event random).1.isIdle = true) : (g.attempt event random).2 = g := by
  have decided := attempt_decides g event random
  generalize (g.attempt event random).1 = verdict, (g.attempt event random).2 = after
    at decided idle ⊢
  cases decided with
  | disabled | whitelisted | noUsername | notAFailure | tooManyBlocked => rfl
  | concurrent | delayed => cases idle

theorem step_idle {g : Guard} {event : GuardEvent} (idle : (g.answer event).isIdle = true) :
    g.step event = g := by
  cases event with
  | attempt event random => exact attempt_idle idle
  | _ => cases idle

/-- The events at some places of a run are idle attempts, as far as there are any. -/
def IdleAt (g : Guard) (gone : Nat → Bool) (events : List GuardEvent) : Prop :=
  ∀ place, gone place = true → ∀ answer, (g.answers events)[place]? = some answer →
    answer.isIdle = true

namespace IdleAt

variable {g : Guard} {gone : Nat → Bool} {event : GuardEvent} {rest before after : List GuardEvent}

theorem head (idle : g.IdleAt gone (event :: rest)) (first : gone 0 = true) : g.step event = g :=
  step_idle (idle 0 first _ rfl)

theorem tail (idle : g.IdleAt gone (event :: rest)) :
    (g.step event).IdleAt (fun place => gone (place + 1)) rest :=
  fun place later answer found => idle (place + 1) later answer found

theorem initial (idle : g.IdleAt gone (before ++ after)) : g.IdleAt gone before := by
  intro place out answer found
  have inside := (List.getElem?_eq_some_iff.mp found).1
  refine idle place out answer ?_
  rw [answers_append, List.getElem?_append_left inside]
  exact found

end IdleAt

theorem run_leaveOut {g : Guard} {gone : Nat → Bool} {events : List GuardEvent}
    (idle : g.IdleAt gone events) : g.run (leaveOut gone events) = g.run events := by
  induction events generalizing g gone with
  | nil => rfl
  | cons event rest ih =>
    have later := ih idle.tail
    rw [leaveOut]
    split
    case isTrue first =>
      -- the event leaves the guard as it is, so the rest starts from the same state
      have same := idle.head first
      rw [same] at later
      rw [later, run, run, List.foldl_cons, same]
    case isFalse => exact later

theorem answers_leaveOut {g : Guard} {gone : Nat → Bool} {events : List GuardEvent}
    (idle : g.IdleAt gone events) :
    g.answers (leaveOut gone events) = leaveOut gone (g.answers events) := by
  induction events generalizing g gone with
  | nil => rfl
  | cons event rest ih =>
    have later := ih idle.tail
    rw [leaveOut, answers, leaveOut]
    split
    case isTrue first =>
      have same := idle.head first
      rw [same] at later ⊢
      exact later
    case isFalse => rw [answers, later]

theorem names_step {g : Guard} (once : (g.entryKeys.map Prod.fst).Nodup) (event : GuardEvent) :
    ((g.step event).entryKeys.map Prod.fst).Nodup := by
  cases step_effect g event with
  | kept entries => rwa [entries]
  | held username _ free entries =>
    have more := once.concat free
    rw [List.concat_eq_append] at more
    rwa [entries, List.map_append]
  | ended gone entries =>
    rw [entries]
    exact once.sublist (List.filter_sublist.map Prod.fst)
  | cleared _ entries =>
    rw [entries]
    exact List.nodup_nil

theorem names_run {g : Guard} (once : (g.entryKeys.map Prod.fst).Nodup)
    (events : List GuardEvent) : ((g.run events).entryKeys.map Prod.fst).Nodup := by
  induction events generalizing g with
  | nil => exact once
  | cons event rest ih => exact ih (names_step once event)

theorem countAttempt_absent {tracker : List TrackerEntry} {username : String}
    (absent : ∀ e ∈ tracker, e.username ≠ username) : countAttempt tracker username = tracker := by
  refine (List.map_congr_left ?_).trans (List.map_id tracker)
  intro e listed
  rw [if_neg (by simpa using absent e listed), id]

theorem countAttempt_alone {before after : List TrackerEntry} {entry : TrackerEntry}
    (others : ∀ e ∈ before ++ after, e.username ≠ entry.username) :
    countAttempt (before ++ entry :: after) entry.username =
      before ++ { entry with attempts := entry.attempts + 1 } :: after := by
  rw [List.forall_mem_append] at others
  have first := countAttempt_absent others.1
  have last := countAttempt_absent others.2
  unfold countAttempt at first last ⊢
  rw [List.map_append, List.map_cons, first, last, if_pos (beq_self_eq_true _)]

/-- The entry of a username with the entries before and after it, which are for others. -/
theorem split_at_entry {g : Guard} (once : (g.entryKeys.map Prod.fst).Nodup) {username : String}
    {entry : TrackerEntry} (found : g.entry? username = some entry) :
    entry.username = username ∧ ∃ before after, g.tracker = before ++ entry :: after ∧
      ∀ e ∈ before ++ after, e.username ≠ username := by
  obtain ⟨fits, before, after, split, earlier⟩ := List.find?_eq_some_iff_append.mp found
  obtain rfl := beq_iff_eq.mp fits
  have names : g.entryKeys.map Prod.fst = g.tracker.map TrackerEntry.username := List.map_map
  rw [names, split, List.map_append, List.map_cons, List.nodup_middle, List.nodup_cons,
    ← List.map_append] at once
  refine ⟨rfl, before, after, split, ?_⟩
  intro e listed same
  exact once.1 (List.mem_map.mpr ⟨e, listed, same⟩)

/-- What an attempt changes, by what becomes of it. -/
structure Framed (g : Guard) (event : AuthEvent) (random : Nat) : Prop where
  idle : (g.attempt event random).1.isIdle = true → (g.attempt event random).2 = g
  refused : ∀ username count,
    (g.attempt event random).1 = .rejected (.concurrent username count) →
      event.principal? = some username ∧ ∃ before entry after,
        g.tracker = before ++ entry :: after ∧ entry.username = username ∧
        entry.attempts = count ∧ (∀ e ∈ before ++ after, e.username ≠ username) ∧
        (g.attempt event random).2 =
          { g with tracker := before ++ { entry with attempts := count + 1 } :: after }
  held : ∀ id, (g.attempt event random).1 = .delayed id → ∃ username,
    event.principal? = some username ∧ g.isTracked username = false ∧
      (g.attempt event random).2.tracker = g.tracker ++ [⟨username, id, 1⟩]

theorem attempt_framed {g : Guard} (once : (g.entryKeys.map Prod.fst).Nodup) (event : AuthEvent)
    (random : Nat) : Framed g event random := by
  have decided := attempt_decides g event random
  constructor
  case idle => exact attempt_idle
  case refused =>
    intro username count outcome
    rw [outcome] at decided
    generalize (g.attempt event random).2 = after at decided ⊢
    cases decided with
    | concurrent considered named found =>
      obtain ⟨rfl, before, later, split, others⟩ := split_at_entry once found
      refine ⟨named, before, _, later, split, rfl, rfl, others, ?_⟩
      rw [split, countAttempt_alone others]
  case held =>
    intro id outcome
    rw [outcome] at decided
    generalize (g.attempt event random).2 = after at decided ⊢
    cases decided with
    | @delayed username considered named free =>
      refine ⟨username, named, ?_, rfl⟩
      rw [isTracked, free, Option.isSome_none]

/-- Nobody notices that the events at some places of a run are missing. -/
structure Unnoticed (g : Guard) (gone : Nat → Bool) (events : List GuardEvent) : Prop where
  answers : g.answers (leaveOut gone events) = leaveOut gone (g.answers events)
  /-- At every time the guard is the same, and so is all that it tracks. -/
  states : ∀ before after, events = before ++ after → g.run (leaveOut gone before) = g.run before

/-- Whatever state a guard is in, idle attempts change nothing, so that any of them may be left out
of the run that follows; a refusal for the attempt's own username counts in its entry, and a delay
adds an entry for a username that had none. -/
theorem idle_attempts_unnoticed {config : BruteForceConfig} {start : Guard}
    (started : ofConfig config = .ok start) (earlier : List GuardEvent) :
    (∀ event random, Framed (start.run earlier) event random) ∧
      ∀ gone events, (start.run earlier).IdleAt gone events →
        Unnoticed (start.run earlier) gone events := by
  obtain ⟨settings, _, rfl⟩ := ofConfig_eq_ok_iff.mp started
  have once := names_run (g := { settings }) List.nodup_nil earlier
  refine ⟨attempt_framed once, ?_⟩
  intro gone events idle
  constructor
  case answers => exact answers_leaveOut idle
  case states =>
    intro before after split
    rw [split] at idle
    exact run_leaveOut idle.initial

/-- Bob's success and his failure, which comes when Alice is held back and there is no room, are
left out; a further attempt of hers is refused. -/
theorem idle_attempts_unnoticed_bob :
    let failure (username : String) : AuthEvent :=
      { kind := .badCredentials, username := some username }
    let config : BruteForceConfig := { maxBlocked := 1, whitelist := [] }
    let earlier : List GuardEvent := [.attempt (failure "alice") 3]
    let refused : GuardEvent := .attempt (failure " alice ") 0
    let events : List GuardEvent :=
      [.attempt { kind := .success, username := some "bob" } 0, refused,
        .attempt (failure "bob") 0, .elapse 1003]
    let gone : Nat → Bool := fun place => place == 0 || place == 2
    ∃ start, ofConfig config = .ok start ∧ (start.run earlier).IdleAt gone events ∧
      leaveOut gone events = [refused, .elapse 1003] ∧
      Unnoticed (start.run earlier) gone events ∧
      (∀ random, Framed (start.run earlier) (failure " alice ") random) := by
  intro failure config earlier refused events gone
  obtain ⟨start, started⟩ : ∃ start, ofConfig config = .ok start := ⟨_, rfl⟩
  obtain ⟨framed, unnoticed⟩ := idle_attempts_unnoticed started earlier
  have kinds : ((start.run earlier).answers events).map GuardAnswer.isIdle =
      [true, false, true, false] := by
    obtain rfl := Except.ok.inj started
    decide +kernel
  have idle : (start.run earlier).IdleAt gone events := by
    intro place out answer found
    have kind := congrArg (Option.map GuardAnswer.isIdle) found
    rw [← List.getElem?_map, kinds] at kind
    simp only [gone, Bool.or_eq_true, beq_iff_eq] at out
    rcases out with rfl | rfl <;> exact (Option.some.inj kind).symm
  exact ⟨start, started, idle, rfl, unnoticed gone events idle, framed _⟩

end Guard
end MapGate
