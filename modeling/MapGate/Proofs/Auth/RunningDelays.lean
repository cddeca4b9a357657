import MapGate.Proofs.Auth.GuardRun

/-!
What an event does to the delays that run: it ends some of them and may start one more. A delay ends
because its attempt is cancelled, because the guard shuts down, or because it is over, and the guard
answers with the ends of all but the cancelled ones.
-/
namespace MapGate

/-- How the waiting of an attempt ends; the times are those for which it was delayed. -/
inductive DelayEnd where
  | cancelled
  | released (waited : Nat)
  | expired (waited : Nat)
deriving DecidableEq

/-- What the guard reports of an attempt that ends. A cancelled one hears nothing. -/
def DelayEnd.report (d : Delay) : DelayEnd → Option Ending
  | cancelled => none
  | released waited => some ⟨d.id, waited⟩
  | expired waited => some ⟨d.id, waited⟩

namespace Guard

/-- The delays that an event ends, with the time for which each attempt was delayed. -/
def endings (g : Guard) (event : GuardEvent) : List Ending :=
  match g.answer event with
  | .ended endings => endings
  | _ => []

/-- The delays that end during some events. -/
def endingsIn (g : Guard) : List GuardEvent → List Ending
  | [] => []
  | event :: rest => g.endings event ++ endingsIn (g.step event) rest

/-- How an event ends a delay that runs, if it does. -/
def endOf (g : Guard) : GuardEvent → Delay → Option DelayEnd
  | .elapse time, d => if isDue (g.now + time) d then some (.expired d.length) else none
  | .wake id, d => if d.id == id && isDue g.now d then some (.expired (g.now - d.started)) else none
  | .cancel id, d => if d.id == id then some .cancelled else none
  | .shutdown, d => some (.released (g.now - d.started))
  | _, _ => none

/-- The delay that an event starts, if it does. -/
def startOf (g : Guard) : GuardEvent → Option Delay
  | .attempt event random =>
    match (g.attempt event random).1, event.principal? with
    | .delayed id, some username => some ⟨username, id, g.now, g.settings.drawDelay random⟩
    | _, _ => none
  | _ => none

/-- A held attempt is given a delay that is drawn between the bounds of the settings. -/
theorem startOf_delayed {g : Guard} {event : AuthEvent} {random : Nat} {id : UInt64}
    (delayed : (g.attempt event random).1 = .delayed id) : ∃ username,
      g.startOf (.attempt event random) =
        some ⟨username, id, g.now, g.settings.drawDelay random⟩ := by
  have decided := attempt_decides g event random
  rw [delayed] at decided
  generalize (g.attempt event random).2 = after at decided
  cases decided with
  | @delayed username _ named =>
    refine ⟨username, ?_⟩
    simp only [startOf, delayed, named]

theorem holds_eq (g : Guard) (event : GuardEvent) :
    g.holds event = (g.startOf event).toList.length := by
  cases event with
  | attempt event random =>
    cases outcome : (g.attempt event random).1 with
    | delayed id =>
      obtain ⟨username, held⟩ := startOf_delayed outcome
      rw [holds_of_delayed outcome, held]
      rfl
    | passed | rejected => simp [holds, startOf, outcome]
  | _ => rfl

theorem step_running (g : Guard) (event : GuardEvent) :
    (g.step event).running =
      g.running.filter (fun d => (g.endOf event d).isNone) ++ (g.startOf event).toList := by
  have finished {ends : Delay → Bool} (none : g.startOf event = none)
      (same : ∀ d, (g.endOf event d).isNone = !ends d) :
      (g.finish ends).running =
        g.running.filter (fun d => (g.endOf event d).isNone) ++ (g.startOf event).toList := by
    rw [none, Option.toList_none, List.append_nil, funext same]
    rfl
  have unended (none : ∀ d, g.endOf event d = none) :
      g.running.filter (fun d => (g.endOf event d).isNone) = g.running := by
    rw [List.filter_eq_self]
    intro d _
    rw [none, Option.isNone_none]
  cases event with
  | attempt event random =>
    have decided := attempt_decides g event random
    rw [unended fun d => rfl]
    dsimp only [step, startOf]
    generalize (g.attempt event random).1 = verdict, (g.attempt event random).2 = after at decided ⊢
    cases decided with
    | delayed considered named => simp [named, hold]
    | _ => simp
  | elapse time =>
    refine finished rfl fun d => ?_
    cases due : isDue (g.now + time) d <;> simp [endOf, due]
  | wake id =>
    refine finished rfl fun d => ?_
    cases due : d.id == id && isDue g.now d <;> simp only [endOf, due] <;> rfl
  | cancel id =>
    refine finished rfl fun d => ?_
    cases own : d.id == id <;> simp only [endOf, own] <;> rfl
  | shutdown => simp [step, shutdown, startOf, endOf]
  | wait | reset =>
    rw [unended fun d => rfl]
    exact (List.append_nil _).symm
  | reconfigure config =>
    obtain ⟨settings, same⟩ := step_reconfigure g config
    rw [unended fun d => rfl, same]
    exact (List.append_nil _).symm

/-- What the guard answers to an event are the ends of the delays that it ends. -/
theorem endings_eq (g : Guard) (event : GuardEvent) :
    g.endings event = g.running.filterMap fun d => (g.endOf event d).bind (DelayEnd.report d) := by
  have reported {ends : Delay → Bool} {waited : Delay → Nat}
      (same : ∀ d, g.endOf event d = if ends d then some (.expired (waited d)) else none) :
      (g.running.filterMap fun d => (g.endOf event d).bind (DelayEnd.report d)) =
        (g.running.filter ends).map fun d => ⟨d.id, waited d⟩ := by
    rw [← List.filterMap_eq_map, List.filterMap_filter]
    congr 1
    funext d
    rw [same]
    cases ends d <;> rfl
  cases event with
  | elapse time => exact (reported fun d => rfl).symm
  | wake id => exact (reported fun d => rfl).symm
  | cancel id =>
    refine (List.filterMap_eq_nil_iff.mpr ?_).symm
    intro d _
    cases own : d.id == id <;> simp [endOf, own, DelayEnd.report]
  | shutdown => simp [endings, answer, shutdown, endOf, DelayEnd.report]
  | attempt | wait | reset | reconfigure => simp [endings, answer, endOf]

/-- What brings a delay to an end, and to which. -/
inductive Brings (g : Guard) (d : Delay) : GuardEvent → DelayEnd → Prop where
  | cancel : Brings g d (.cancel d.id) .cancelled
  | shutdown : Brings g d .shutdown (.released (g.now - d.started))
  | elapse {time : Nat} (due : d.started + d.length ≤ g.now + time) :
      Brings g d (.elapse time) (.expired d.length)
  | wake (due : d.started + d.length ≤ g.now) :
      Brings g d (.wake d.id) (.expired (g.now - d.started))

theorem endOf_eq_some_iff {g : Guard} {event : GuardEvent} {d : Delay} {fin : DelayEnd} :
    g.endOf event d = some fin ↔ g.Brings d event fin := by
  constructor
  · intro ended
    cases event with
    | elapse time =>
      obtain ⟨due, rfl⟩ : isDue (g.now + time) d = true ∧ .expired d.length = fin := by
        simpa [endOf] using ended
      exact .elapse (by simpa [isDue] using due)
    | wake id =>
      obtain ⟨⟨rfl, due⟩, rfl⟩ :
          (d.id = id ∧ isDue g.now d = true) ∧ .expired (g.now - d.started) = fin := by
        simpa [endOf] using ended
      exact .wake (by simpa [isDue] using due)
    | cancel id =>
      obtain ⟨rfl, rfl⟩ : d.id = id ∧ .cancelled = fin := by simpa [endOf] using ended
      exact .cancel
    | shutdown =>
      obtain rfl := Option.some.inj ended
      exact .shutdown
    | attempt | wait | reset | reconfigure => contradiction
  · rintro (_ | _ | due | due)
    · simp [endOf]
    · rfl
    · simp [endOf, isDue, due]
    · simp [endOf, isDue, due]

/-- A delay is over no earlier than after its length. -/
theorem Brings.length_le {g : Guard} {d : Delay} {event : GuardEvent} {waited : Nat}
    (brings : g.Brings d event (.expired waited)) : d.length ≤ waited := by
  cases brings with
  | elapse => exact Nat.le_refl _
  | wake due => omega

end Guard
end MapGate
