import Mathlib.Data.List.Nodup
import MapGate.Proofs.Auth.RunningDelays

/-!
The delay of an attempt that is held back. It is drawn between the bounds of the configuration in
force at that moment, in whichever order that gives them, and stays as drawn. A log next to the guard
knows each attempt by its place among those held back, since numbers come round: at every moment an
attempt either waits or has ended once, cancelled, released by a shutdown, or not before its delay is
over.
-/
namespace MapGate

theorem GuardSettings.drawDelay_between {config : BruteForceConfig} {settings : GuardSettings}
    (read : ofConfig config = .ok settings) (random : Nat) :
    min config.minDelay.toNat config.maxDelay.toNat ≤ settings.drawDelay random ∧
      settings.drawDelay random ≤ max config.minDelay.toNat config.maxDelay.toNat := by
  have follows := ofConfig_eq_ok_iff.mp read
  rw [← follows.minDelay, ← follows.maxDelay]
  exact settings.drawDelay_mem random

namespace Guard

/-- The configuration in force after some events: the last one that was accepted. -/
def configAfter (config : BruteForceConfig) : List GuardEvent → BruteForceConfig
  | [] => config
  | .reconfigure next :: rest =>
    match GuardSettings.ofConfig next with
    | .ok _ => configAfter next rest
    | .error _ => configAfter config rest
  | _ :: rest => configAfter config rest

theorem ofConfig_configAfter {config : BruteForceConfig} {g : Guard}
    (current : GuardSettings.ofConfig config = .ok g.settings) (events : List GuardEvent) :
    GuardSettings.ofConfig (configAfter config events) = .ok (g.run events).settings := by
  induction events generalizing config g with
  | nil => exact current
  | cons event rest ih =>
    cases event with
    | reconfigure next =>
      cases read : GuardSettings.ofConfig next with
      | ok settings =>
        have accepted : g.step (.reconfigure next) = { g with settings } := by
          simp [step, reconfigure, read, Except.map]
        rw [configAfter, read, run, List.foldl_cons, accepted]
        exact ih read
      | error e =>
        have refused : g.step (.reconfigure next) = g := by
          simp [step, reconfigure, read, Except.map]
        rw [configAfter, read, run, List.foldl_cons, refused]
        exact ih current
    | _ =>
      refine ih (g := g.step _) (current.trans ?_)
      rw [step_settings (by simp)]

end Guard

/-- A guard with the delays that its attempts started, in order. An attempt is known by the place of
its delay among these. -/
structure DelayLog where
  guard : Guard
  started : List Delay := []
  waiting : List (Delay × Nat) := []
  ended : List ((Delay × Nat) × DelayEnd) := []

namespace DelayLog

def step (l : DelayLog) (event : GuardEvent) : DelayLog where
  guard := l.guard.step event
  started := l.started ++ (l.guard.startOf event).toList
  waiting := l.waiting.filter (fun a => (l.guard.endOf event a.1).isNone) ++
    (l.guard.startOf event).toList.zipIdx l.started.length
  ended := l.ended ++ l.waiting.filterMap fun a => (l.guard.endOf event a.1).map (Prod.mk a)

def run (l : DelayLog) (events : List GuardEvent) : DelayLog := events.foldl step l

/-- The ends that the attempt at a place has come to. -/
def endsAt (l : DelayLog) (place : Nat) : List DelayEnd :=
  (l.ended.filter fun entry => entry.1.2 == place).map Prod.snd

/-- What the attempts hear that have ended. -/
def reports (l : DelayLog) : List Ending :=
  l.ended.filterMap fun entry => entry.2.report entry.1.1

theorem run_append (l : DelayLog) (before after : List GuardEvent) :
    l.run (before ++ after) = (l.run before).run after := List.foldl_append

theorem guard_run (l : DelayLog) (events : List GuardEvent) :
    (l.run events).guard = l.guard.run events := by
  induction events generalizing l with
  | nil => rfl
  | cons event rest ih => exact ih (l.step event)

/-- Every delay that was started is that of one attempt, which waits or has ended. -/
structure Accounted (l : DelayLog) : Prop where
  running : l.waiting.map Prod.fst = l.guard.running
  each : (l.ended.map Prod.fst ++ l.waiting).Perm l.started.zipIdx

theorem map_fst_filterMap {α β : Type} (f : α → Option β) (l : List α) :
    (l.filterMap fun a => (f a).map (Prod.mk a)).map Prod.fst = l.filter fun a => (f a).isSome := by
  rw [List.map_filterMap, ← List.filterMap_eq_filter]
  congr 1
  funext a
  cases found : f a <;> simp [Option.guard, found]

theorem filter_key {α : Type} {key : α → Nat} {l : List α} (once : (l.map key).Nodup) {a : α}
    (member : a ∈ l) : l.filter (fun b => key b == key a) = [a] := by
  induction l with
  | nil => contradiction
  | cons b rest ih =>
    obtain ⟨new, once⟩ := List.nodup_cons.mp once
    rcases List.mem_cons.mp member with rfl | later
    · have others : rest.filter (fun b => key b == key a) = [] := by
        rw [List.filter_eq_nil_iff]
        intro other listed same
        exact new (List.mem_map.mpr ⟨other, listed, beq_iff_eq.mp same⟩)
      rw [List.filter_cons_of_pos (by simp), others]
    · have differs : key b ≠ key a := fun same => new (same ▸ List.mem_map_of_mem later)
      rw [List.filter_cons_of_neg (by simpa using differs), ih once later]

namespace Accounted

variable {l : DelayLog} (accounted : Accounted l)
include accounted

theorem step (event : GuardEvent) : Accounted (l.step event) where
  running := by
    dsimp only [DelayLog.step]
    rw [Guard.step_running, ← accounted.running, List.map_append, List.zipIdx_map_fst,
      List.filter_map]
    rfl
  each := by
    -- what waited has ended by this event or still waits
    have parts : (l.waiting.filter (fun a => (l.guard.endOf event a.1).isSome) ++
        l.waiting.filter (fun a => (l.guard.endOf event a.1).isNone)).Perm l.waiting := by
      simp only [← Option.not_isSome]
      exact List.filter_append_perm _ _
    have sides := (parts.append_left (l.ended.map Prod.fst)).trans accounted.each
    dsimp only [DelayLog.step]
    rw [List.map_append, map_fst_filterMap, List.zipIdx_append, Nat.zero_add, ← List.append_assoc,
      List.append_assoc (l.ended.map Prod.fst)]
    exact sides.append_right _

theorem run (events : List GuardEvent) : Accounted (l.run events) := by
  induction events generalizing l with
  | nil => exact accounted
  | cons event rest ih => exact ih (accounted.step event)

theorem places : (l.ended.map (·.1.2) ++ l.waiting.map Prod.snd).Nodup := by
  have places := accounted.each.map Prod.snd
  rw [List.zipIdx_map_snd, List.map_append, List.map_map] at places
  exact places.nodup_iff.mpr List.nodup_range'

/-- Each attempt waits, or has come to a single end. -/
theorem once {d : Delay} {place : Nat} (listed : (d, place) ∈ l.started.zipIdx) :
    ((d, place) ∈ l.waiting ∧ l.endsAt place = []) ∨
      ∃ fin, l.endsAt place = [fin] ∧ ((d, place), fin) ∈ l.ended ∧
        place ∉ l.waiting.map Prod.snd := by
  obtain ⟨once, _, apart⟩ := List.nodup_append.mp accounted.places
  rcases List.mem_append.mp (accounted.each.mem_iff.mpr listed) with gone | waits
  · right
    obtain ⟨⟨key, fin⟩, entry, rfl⟩ := List.mem_map.mp gone
    refine ⟨fin, ?_, entry, ?_⟩
    · rw [endsAt, filter_key once entry]
      rfl
    · intro again
      exact apart place (List.mem_map_of_mem entry) place again rfl
  · left
    refine ⟨waits, ?_⟩
    rw [endsAt, List.map_eq_nil_iff, List.filter_eq_nil_iff]
    intro entry member same
    have ends := List.mem_map_of_mem (f := (·.1.2)) member
    exact apart _ ends _ (List.mem_map_of_mem waits) (by simpa using same)

end Accounted

theorem started_step (l : DelayLog) (event : GuardEvent) :
    l.started <+: (l.step event).started := List.prefix_append _ _

theorem started_run (l : DelayLog) (events : List GuardEvent) :
    l.started <+: (l.run events).started := by
  induction events generalizing l with
  | nil => exact List.prefix_refl _
  | cons event rest ih => exact (l.started_step event).trans (ih (l.step event))

theorem ended_run (l : DelayLog) (events : List GuardEvent) :
    l.ended <+: (l.run events).ended := by
  induction events generalizing l with
  | nil => exact List.prefix_refl _
  | cons event rest ih => exact (List.prefix_append _ _).trans (ih (l.step event))

/-- An attempt that waits goes on waiting until an event brings its delay to an end. -/
theorem fate {l : DelayLog} {d : Delay} {place : Nat} (waits : (d, place) ∈ l.waiting)
    (events : List GuardEvent) :
    ((d, place) ∈ (l.run events).waiting ∧
      ∀ early event late, events = early ++ event :: late →
        (l.guard.run early).endOf event d = none) ∨
    ∃ early event late fin, events = early ++ event :: late ∧
      (d, place) ∈ (l.run early).waiting ∧ (l.guard.run early).endOf event d = some fin ∧
      ((d, place), fin) ∈ (l.run events).ended := by
  induction events generalizing l with
  | nil => exact .inl ⟨waits, by simp⟩
  | cons event rest ih =>
    cases found : l.guard.endOf event d with
    | some fin =>
      right
      have entry : ((d, place), fin) ∈ (l.step event).ended := by
        refine List.mem_append_right _ (List.mem_filterMap.mpr ⟨_, waits, ?_⟩)
        rw [found]
        rfl
      exact ⟨[], event, rest, fin, rfl, waits, found,
        ((l.step event).ended_run rest).subset entry⟩
    | none =>
      have still : (d, place) ∈ (l.step event).waiting :=
        List.mem_append_left _ (List.mem_filter.mpr ⟨waits, by simp [found]⟩)
      rcases ih still with ⟨goes_on, quiet⟩ | ⟨early, last, late, fin, split, until_then, ended⟩
      · refine .inl ⟨goes_on, ?_⟩
        intro early last late split
        rcases List.cons_eq_append_iff.mp split with ⟨rfl, same⟩ | ⟨more, rfl, later⟩
        · obtain ⟨rfl, _⟩ := List.cons.inj same
          exact found
        · exact quiet more last late later
      · exact .inr ⟨event :: early, last, late, fin, by rw [split]; rfl, until_then, ended⟩

/-- What the guard answers is what the log reports. -/
theorem reports_run (l : DelayLog) (accounted : Accounted l) (events : List GuardEvent) :
    (l.run events).reports = l.reports ++ l.guard.endingsIn events := by
  induction events generalizing l with
  | nil => exact (List.append_nil _).symm
  | cons event rest ih =>
    have now : (l.waiting.filterMap fun a => (l.guard.endOf event a.1).map (Prod.mk a)).filterMap
        (fun entry => entry.2.report entry.1.1) = l.guard.endings event := by
      rw [Guard.endings_eq, ← accounted.running, List.filterMap_map, List.filterMap_filterMap]
      congr 1
      funext a
      rw [Option.bind_map]
      rfl
    have later := ih (l.step event) (accounted.step event)
    refine later.trans ?_
    rw [Guard.endingsIn, ← List.append_assoc, ← now]
    congr 1
    exact List.filterMap_append

theorem length_started (l : DelayLog) (events : List GuardEvent) :
    (l.run events).started.length = l.started.length + l.guard.heldCount events := by
  induction events generalizing l with
  | nil => rfl
  | cons event rest ih =>
    have first : (l.step event).started.length = l.started.length + l.guard.holds event := by
      rw [Guard.holds_eq]
      exact List.length_append
    rw [Guard.heldCount, ← Nat.add_assoc, ← first]
    exact ih (l.step event)

/-- The log of a guard that holds nothing back yet. -/
theorem accounted_start (settings : GuardSettings) : Accounted { guard := { settings } } :=
  ⟨rfl, List.Perm.refl _⟩

/-- An attempt that is held back begins to wait in the next place. -/
theorem held_attempt {start : Guard} {before : List GuardEvent} {event : AuthEvent} {random : Nat}
    {d : Delay} (held : (start.run before).startOf (.attempt event random) = some d) :
    let l := run { guard := start } (before ++ [.attempt event random])
    (d, start.heldCount before) ∈ l.started.zipIdx ∧ (d, start.heldCount before) ∈ l.waiting := by
  intro l
  let log := run { guard := start } before
  have place : log.started.length = start.heldCount before :=
    (length_started _ before).trans (Nat.zero_add _)
  have last : l = log.step (.attempt event random) := run_append _ before _
  have new : log.guard.startOf (.attempt event random) = some d :=
    (congrArg (Guard.startOf · _) (guard_run _ before)).trans held
  have first : (d, start.heldCount before) ∈ [d].zipIdx log.started.length := by
    rw [← place]
    exact List.mem_singleton_self _
  rw [last]
  dsimp only [DelayLog.step]
  rw [new, Option.toList_some, List.zipIdx_append, Nat.zero_add]
  exact ⟨List.mem_append_right _ first, List.mem_append_right _ first⟩

/-- What becomes of an attempt that has just begun to wait for the delay `d`. -/
structure EndsOnce (l : DelayLog) (d : Delay) (place : Nat) (after : List GuardEvent) : Prop where
  asDrawn : (l.run after).started[place]? = some d
  /-- It waits for the delay as drawn, or has come to a single end and does not wait any more. -/
  once : ((d, place) ∈ (l.run after).waiting ∧ (l.run after).endsAt place = []) ∨
    ((∃ fin, (l.run after).endsAt place = [fin]) ∧ place ∉ (l.run after).waiting.map Prod.snd)
  /-- It waits only as long as nothing has brought the delay to an end. -/
  waits : (l.run after).endsAt place = [] → ∀ early event late, after = early ++ event :: late →
    ∀ fin, ¬ (l.guard.run early).Brings d event fin
  /-- It waits until it is cancelled, released by a shutdown, or its time has come. -/
  ends : ∀ fin, (l.run after).endsAt place = [fin] → ∃ early event late,
    after = early ++ event :: late ∧ (d, place) ∈ (l.run early).waiting ∧
      (l.guard.run early).Brings d event fin
  inTime : ∀ waited, (l.run after).endsAt place = [.expired waited] → d.length ≤ waited
  /-- As soon as enough time passes, it has come to an end. -/
  inEnd : ∀ time, d.started + d.length ≤ (l.guard.run after).now + time →
    (l.run (after ++ [.elapse time])).endsAt place ≠ []

theorem mem_endsAt {l : DelayLog} {d : Delay} {place : Nat} {fin : DelayEnd}
    (entry : ((d, place), fin) ∈ l.ended) : fin ∈ l.endsAt place :=
  List.mem_map.mpr ⟨_, List.mem_filter.mpr ⟨entry, beq_self_eq_true place⟩, rfl⟩

/-- What brings the delay of a waiting attempt to an end leaves the attempt with one. -/
theorem endsAt_of_brings {l : DelayLog} {d : Delay} {place : Nat} (waits : (d, place) ∈ l.waiting)
    {early late : List GuardEvent} {event : GuardEvent} {fin : DelayEnd}
    (brings : (l.guard.run early).Brings d event fin) :
    (l.run (early ++ event :: late)).endsAt place ≠ [] := by
  rcases fate waits (early ++ event :: late) with ⟨_, quiet⟩ | ⟨_, _, _, _, _, _, _, entry⟩
  · have brought := Guard.endOf_eq_some_iff.mpr brings
    rw [quiet early event late rfl] at brought
    contradiction
  · exact List.ne_nil_of_mem (mem_endsAt entry)

theorem Accounted.endsOnce {l : DelayLog} (accounted : Accounted l) {d : Delay} {place : Nat}
    (listed : (d, place) ∈ l.started.zipIdx) (waiting : (d, place) ∈ l.waiting)
    (after : List GuardEvent) : EndsOnce l d place after := by
  obtain ⟨more, started⟩ := l.started_run after
  have listed : (d, place) ∈ (l.run after).started.zipIdx := by
    rw [← started, List.zipIdx_append]
    exact List.mem_append_left _ listed
  have once := (accounted.run after).once listed
  have inEnd (time : Nat) (due : d.started + d.length ≤ (l.guard.run after).now + time) :
      (l.run (after ++ [.elapse time])).endsAt place ≠ [] := endsAt_of_brings waiting (.elapse due)
  rcases fate waiting after with
    ⟨still, _⟩ | ⟨early, event, late, fin, split, until_then, brought, entry⟩
  · have none : (l.run after).endsAt place = [] := by
      rcases once with ⟨_, none⟩ | ⟨_, _, _, out⟩
      · exact none
      · exact absurd (List.mem_map_of_mem still) out
    constructor
    case asDrawn => exact List.mem_zipIdx_iff_getElem?.mp listed
    case once => exact .inl ⟨still, none⟩
    case waits =>
      intro _ early event late split fin brings
      subst split
      exact endsAt_of_brings waiting brings none
    case ends => simp [none]
    case inTime => simp [none]
    case inEnd => exact inEnd
  · have member := mem_endsAt entry
    have brings := Guard.endOf_eq_some_iff.mp brought
    obtain ⟨single, out⟩ : (l.run after).endsAt place = [fin] ∧
        place ∉ (l.run after).waiting.map Prod.snd := by
      rcases once with ⟨_, none⟩ | ⟨other, single, _, out⟩
      · rw [none] at member
        contradiction
      · rw [single, List.mem_singleton] at member
        exact ⟨member ▸ single, out⟩
    constructor
    case asDrawn => exact List.mem_zipIdx_iff_getElem?.mp listed
    case once => exact .inr ⟨⟨fin, single⟩, out⟩
    case waits => simp [single]
    case ends =>
      intro other same
      obtain rfl := List.singleton_inj.mp (single.symm.trans same)
      exact ⟨early, event, late, split, until_then, brings⟩
    case inTime =>
      intro waited same
      obtain rfl := List.singleton_inj.mp (single.symm.trans same)
      exact brings.length_le
    case inEnd => exact inEnd

/-- An attempt that is held back is given a delay between the bounds of the configuration in force,
and whatever happens then, it comes to one end: not before the delay is over, unless it is cancelled
or released by a shutdown. The log agrees with the delays that the guard runs and with the ends that
it answers. -/
theorem delay_ends_once {config : BruteForceConfig} {start : Guard} {before : List GuardEvent}
    {event : AuthEvent} {random : Nat} {id : UInt64} (started : Guard.ofConfig config = .ok start)
    (delayed : ((start.run before).attempt event random).1 = .delayed id) :
    let c := Guard.configAfter config before
    let l := run { guard := start } (before ++ [.attempt event random])
    ∃ d : Delay, d.id = id ∧ d.started = (start.run before).now ∧
      min c.minDelay.toNat c.maxDelay.toNat ≤ d.length ∧
      d.length ≤ max c.minDelay.toNat c.maxDelay.toNat ∧
      ∀ after, EndsOnce l d (start.heldCount before) after ∧
        (l.run after).waiting.map Prod.fst =
          (start.run (before ++ .attempt event random :: after)).running ∧
        (l.run after).reports = start.endingsIn (before ++ .attempt event random :: after) := by
  intro c l
  obtain ⟨settings, read, rfl⟩ := Guard.ofConfig_eq_ok_iff.mp started
  have current := Guard.ofConfig_configAfter (g := { settings }) read before
  obtain ⟨shortest, longest⟩ := GuardSettings.drawDelay_between current random
  obtain ⟨username, held⟩ := Guard.startOf_delayed delayed
  have accounted := accounted_start settings
  refine ⟨⟨username, id, _, GuardSettings.drawDelay _ random⟩, rfl, rfl, shortest, longest, ?_⟩
  intro after
  have whole : l.run after =
      run { guard := { settings } } (before ++ .attempt event random :: after) := by
    rw [← run_append, List.append_assoc]
    rfl
  refine ⟨?ends, ?waiting, ?reports⟩
  case ends =>
    obtain ⟨listed, waiting⟩ := held_attempt held
    exact (accounted.run _).endsOnce listed waiting after
  case waiting =>
    rw [whole, (accounted.run _).running, guard_run]
  case reports =>
    rw [whole, reports_run _ accounted]
    rfl

/-- The new bounds, again in the wrong order, are in force when Alice is held back. Neither the reset
nor the settings that follow end her delay: it is over after its 27 milliseconds. -/
theorem delay_ends_once_reversed :
    let failure (username : String) : AuthEvent :=
      { kind := .badCredentials, username := some username }
    let config : BruteForceConfig := { minDelay := 300, maxDelay := 100, whitelist := [] }
    let next : BruteForceConfig := { config with minDelay := 50, maxDelay := 20 }
    let before : List GuardEvent := [.attempt (failure "bob") 0, .wait 5, .reconfigure next]
    let after : List GuardEvent :=
      [.reset, .elapse 19, .reconfigure { next with minDelay := 0 }, .wake 1, .elapse 10, .cancel 1]
    ∃ start d, Guard.ofConfig config = .ok start ∧
      ((start.run before).attempt (failure "alice") 7).1 = .delayed 1 ∧
      d.id = 1 ∧ d.started = 5 ∧ 20 ≤ d.length ∧ d.length ≤ 50 ∧
      (let l := run { guard := start } (before ++ [.attempt (failure "alice") 7])
      EndsOnce l d 1 after ∧ (l.run after).endsAt 1 = [.expired 27]) := by
  intro failure config next before after
  obtain ⟨start, started⟩ : ∃ start, Guard.ofConfig config = .ok start := ⟨_, rfl⟩
  have delayed : ((start.run before).attempt (failure "alice") 7).1 = .delayed 1 := by
    obtain rfl := Except.ok.inj started
    decide +kernel
  obtain ⟨d, number, since, shortest, longest, ends⟩ := delay_ends_once started delayed
  obtain rfl := Except.ok.inj started
  exact ⟨_, d, rfl, delayed, number, since, shortest, longest, (ends after).1, by decide +kernel⟩

end DelayLog
end MapGate
