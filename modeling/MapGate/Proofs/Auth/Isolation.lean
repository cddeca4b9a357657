import Mathlib.Data.List.Forall2
import Mathlib.Data.List.Infix
import MapGate.Proofs.Auth.Alone
import MapGate.Proofs.Text.Trim

/-!
Usernames do not notice each other. Two runs of a guard without a cap that agree in everything that
concerns a username agree in all that can be seen of it: what becomes of each attempt, how long each
delay takes, and whether the username is tracked.
-/
namespace MapGate

/-- What an attempt comes to at once, without its number. -/
inductive LoginOutcome where
  | passed (why : Bypass)
  | rejected (why : Rejection)
  | delayed (length : Nat)
deriving DecidableEq

/-- What is seen of a username at an event: the time and whether it is tracked afterwards, and which
of the attempts for it have ended after how long. -/
structure LoginView where
  now : Nat
  tracked : Bool
  outcome : Option LoginOutcome
  ended : List (Nat × Nat)
deriving DecidableEq

/-- An event without the random number, and with usernames trimmed. -/
def LoginEvent.plain : LoginEvent → LoginEvent
  | attempt event _ => attempt { event with username := event.username.map trimmed } 0
  | wake name place => wake (trimmed name) place
  | cancel name place => cancel (trimmed name) place
  | event => event

/-- Events are alike up to white space around usernames, and if both start a delay, the drawn
lengths are the same. -/
def AgreeOn (first second : LoginEvent × Option Nat) : Prop :=
  first.1.plain = second.1.plain ∧ ∀ a ∈ first.2, ∀ b ∈ second.2, a = b

instance (first second : LoginEvent × Option Nat) : Decidable (AgreeOn first second) :=
  inferInstanceAs (Decidable (_ ∧ _))

namespace LoginState

def drawn (l : LoginState) : LoginEvent → Option Nat
  | .attempt event random =>
    (l.guard.attempt event random).1.number?.map fun _ => l.guard.settings.drawDelay random
  | _ => none

def outcome (l : LoginState) : LoginEvent → Option LoginOutcome
  | .attempt event random =>
    match (l.guard.attempt event random).1 with
    | .passed why => some (.passed why)
    | .rejected why => some (.rejected why)
    | .delayed _ => some (.delayed (l.guard.settings.drawDelay random))
  | _ => none

def endings (l : LoginState) (event : LoginEvent) : List Ending :=
  match (l.resolve event).map l.guard.answer with
  | some (.ended list) => list
  | _ => []

/-- Which attempt for a username has a number. -/
def place? (l : LoginState) (username : String) (id : UInt64) : Option Nat :=
  (l.attemptsOf username).findIdx? fun a => a.number == some id

def placed (l : LoginState) (username : String) (ending : Ending) : Option (Nat × Nat) :=
  (l.place? username ending.id).map fun place => (place, ending.waited)

def view (l : LoginState) (username : String) (event : LoginEvent) : LoginView where
  now := (l.step event).guard.now
  tracked := (l.step event).guard.isTracked username
  outcome := l.outcome event
  ended := (l.endings event).filterMap (l.placed username)

/-- Each event of a run with the state in which it finds the guard. -/
def walk (l : LoginState) : List LoginEvent → List (LoginState × LoginEvent)
  | [] => []
  | event :: rest => (l, event) :: walk (l.step event) rest

def stops (l : LoginState) (username : String) (events : List LoginEvent) :
    List (LoginState × LoginEvent) :=
  (l.walk events).filter fun p => p.2.concerns username

/-- The events of a run that concern a username, with the drawn delays. -/
def inputs (l : LoginState) (username : String) (events : List LoginEvent) :
    List (LoginEvent × Option Nat) :=
  (l.stops username events).map fun p => (p.2, p.1.drawn p.2)

def report (l : LoginState) (username : String) (events : List LoginEvent) : List LoginView :=
  (l.stops username events).map fun p => p.1.view username p.2

theorem findIdx?_renumber {ids : List UInt64} (few : ids.length < UInt64.size) {id : UInt64}
    (own : id ∈ ids) (attempts : List LoggedAttempt) :
    (attempts.map (·.renumber ids)).findIdx? (fun a => a.number == some (rank ids id)) =
      attempts.findIdx? fun a => a.number == some id := by
  have same (a : LoggedAttempt) :
      ((a.renumber ids).number == some (rank ids id)) = (a.number == some id) := by
    cases number : a.number with
    | none => simp [LoggedAttempt.renumber, number]
    | some other => simpa [LoggedAttempt.renumber, number] using rank_beq few own other
  rw [List.findIdx?_map]
  exact congrArg (attempts.findIdx? ·) (funext same)

section Alone

variable {l : LoginState} {n : Nat} (logged : Logged l n) {username : String}

include logged

theorem place?_alone (few : n < UInt64.size) {id : UInt64} (own : id ∈ l.ids username) :
    (l.alone username).place? username (rank (l.ids username) id) = l.place? username id := by
  rw [place?, attemptsOf_alone]
  exact findIdx?_renumber (logged.numbers few username).few own (l.attemptsOf username)

theorem place?_other {d : Delay} (running : d ∈ l.guard.running) (other : d.username ≠ username) :
    l.place? username d.id = none := by
  rw [place?, List.findIdx?_eq_none_iff]
  intro a member
  rw [beq_eq_false_iff_ne]
  intro number
  have known : d.id ∈ l.ids username := List.mem_filterMap.mpr ⟨a, member, number⟩
  have owner := mem_ids_iff.mpr (logged.delays d.key (List.mem_map_of_mem running))
  exact other (logged.one_name owner known)

/-- Of the delays that end, those of the username end in the same places for the same time. -/
theorem placed_running (few : n < UInt64.size) {ends ends' : Delay → Bool}
    {waited waited' : Delay → Nat}
    (same : ∀ d ∈ l.guard.running, d.username = username →
      ends' (d.renumber (l.ids username)) = ends d ∧
        waited' (d.renumber (l.ids username)) = waited d) :
    (((l.alone username).guard.running.filter ends').map fun d => ⟨d.id, waited' d⟩).filterMap
        ((l.alone username).placed username) =
      ((l.guard.running.filter ends).map fun d => ⟨d.id, waited d⟩).filterMap
        (l.placed username) := by
  have numbers := logged.numbers few username
  have delays : (l.alone username).guard.running =
      (l.guard.running.filter fun d => d.username == username).map
        (·.renumber (l.ids username)) := rfl
  rw [List.filterMap_map, List.filterMap_map, List.filterMap_filter, List.filterMap_filter, delays,
    List.filterMap_map, List.filterMap_filter]
  apply List.filterMap_congr
  intro d running
  by_cases own : d.username = username
  · obtain ⟨ended, time⟩ := same d running own
    have place := place?_alone logged few (numbers.delays d running own)
    have seen : (l.alone username).placed username
        ⟨(d.renumber (l.ids username)).id, waited d⟩ = l.placed username ⟨d.id, waited d⟩ :=
      congrArg (Option.map _) place
    simp only [own, beq_self_eq_true, if_true, Function.comp, ended, time, seen]
  · rw [beq_eq_false_iff_ne.mpr own]
    simp [placed, place?_other logged running own]

theorem endings_alone (few : n < UInt64.size) {event : LoginEvent}
    (concerned : event.concerns username = true) :
    ((l.alone username).endings event).filterMap ((l.alone username).placed username) =
      (l.endings event).filterMap (l.placed username) := by
  cases event with
  | wake name place =>
    obtain rfl := beq_iff_eq.mp concerned
    dsimp only [endings, resolve]
    rw [number?_alone]
    cases found : l.number? name place with
    | none => rfl
    | some id =>
      refine placed_running logged few ?_
      intro d running own
      have same := rank_beq (logged.numbers few _).few (mem_ids_of_number? found) d.id
      exact ⟨congrArg (· && Guard.isDue l.guard.now d) same, rfl⟩
  | elapse time => exact placed_running logged few fun d running own => ⟨rfl, rfl⟩
  | shutdown =>
    let waited (d : Delay) : Nat := l.guard.now - d.started
    have all := @placed_running l n logged username few (fun _ => true) (fun _ => true)
      waited waited fun d running own => ⟨rfl, rfl⟩
    rw [List.filter_true, List.filter_true] at all
    exact all
  | cancel name place =>
    dsimp only [endings, resolve]
    cases (l.alone username).number? name place <;> cases l.number? name place <;> rfl
  | attempt | wait | reset | reconfigure => rfl

theorem outcome_alone (few : n < UInt64.size) (uncapped : l.guard.settings.maxBlocked = 0)
    {event : LoginEvent} (concerned : event.concerns username = true) :
    (l.alone username).outcome event = l.outcome event := by
  cases event with
  | attempt event random =>
    have same := attempt_alone logged few uncapped (beq_iff_eq.mp concerned) random
    dsimp only [outcome]
    rw [same]
    cases (l.guard.attempt event random).1 <;> rfl
  | _ => rfl

theorem drawn_alone (few : n < UInt64.size) (uncapped : l.guard.settings.maxBlocked = 0)
    {event : LoginEvent} (concerned : event.concerns username = true) :
    (l.alone username).drawn event = l.drawn event := by
  cases event with
  | attempt event random =>
    have same := attempt_alone logged few uncapped (beq_iff_eq.mp concerned) random
    dsimp only [drawn]
    rw [same, Verdict.number?_renumber, Option.map_map]
    rfl
  | _ => rfl

theorem view_alone {event : LoginEvent} (few : n + event.attempts < UInt64.size)
    (uncapped : l.guard.settings.maxBlocked = 0) (concerned : event.concerns username = true) :
    (l.alone username).view username event = l.view username event := by
  have fewer : n < UInt64.size := Nat.lt_of_le_of_lt (Nat.le_add_right n _) few
  have next := alone_step_self logged few uncapped concerned
  unfold view
  rw [← next, outcome_alone logged fewer uncapped concerned,
    endings_alone logged fewer concerned]
  congr 1
  exact Guard.isTracked_restrict _ _ _

end Alone

theorem stops_cons (l : LoginState) (username : String) (event : LoginEvent)
    (rest : List LoginEvent) : l.stops username (event :: rest) =
      if event.concerns username = true then (l, event) :: (l.step event).stops username rest
      else (l.step event).stops username rest := by
  unfold stops
  rw [walk, List.filter_cons]

/-- What holds of the guard as the username alone has it holds of it at the events that concern the
username. -/
theorem stops_alone {γ : Type} {username : String} (f : LoginState × LoginEvent → γ)
    (same : ∀ l n event, Logged l n → n + event.attempts < UInt64.size →
      l.guard.settings.maxBlocked = 0 → event.concerns username = true →
        f (l.alone username, event) = f (l, event))
    {l : LoginState} {n : Nat} (logged : Logged l n) {events : List LoginEvent}
    (few : n + LoginEvent.attemptsIn events < UInt64.size)
    (uncapped : ∀ before, before <+: events → (l.run before).guard.settings.maxBlocked = 0) :
    (l.stops username events).map f =
      ((l.alone username).walk (events.filter (LoginEvent.concerns username))).map f := by
  induction events generalizing l n with
  | nil => rfl
  | cons event rest ih =>
    rw [LoginEvent.attemptsIn, ← Nat.add_assoc] at few
    have first : n + event.attempts < UInt64.size := Nat.lt_of_le_of_lt (Nat.le_add_right _ _) few
    have now : l.guard.settings.maxBlocked = 0 := uncapped [] List.nil_prefix
    have later := ih (logged.step event first) few fun before early =>
      uncapped (event :: before) (List.cons_prefix_cons.mpr ⟨rfl, early⟩)
    rw [stops_cons, List.filter_cons]
    cases concerned : event.concerns username with
    | true =>
      rw [if_pos rfl, if_pos rfl, walk, List.map_cons, List.map_cons, later,
        alone_step_self logged first now concerned, same l n event logged first now concerned]
    | false =>
      rw [if_neg Bool.false_ne_true, if_neg Bool.false_ne_true, later,
        alone_step_other logged first concerned]

section Uncapped

variable {l : LoginState} {n : Nat} (logged : Logged l n) {events : List LoginEvent}
  (few : n + LoginEvent.attemptsIn events < UInt64.size)
  (uncapped : ∀ before, before <+: events → (l.run before).guard.settings.maxBlocked = 0)
  (username : String)

include logged few uncapped

theorem inputs_alone : l.inputs username events =
    ((l.alone username).walk (events.filter (LoginEvent.concerns username))).map fun p =>
      (p.2, p.1.drawn p.2) := by
  refine stops_alone _ ?_ logged few uncapped
  intro l n event logged few free concerned
  have fewer : n < UInt64.size := Nat.lt_of_le_of_lt (Nat.le_add_right _ _) few
  rw [drawn_alone logged fewer free concerned]

theorem report_alone : l.report username events =
    ((l.alone username).walk (events.filter (LoginEvent.concerns username))).map fun p =>
      p.1.view username p.2 := by
  refine stops_alone _ ?_ logged few uncapped
  intro l n event logged few free concerned
  exact view_alone logged few free concerned

end Uncapped

theorem attempt_congr {g : Guard} {e e' : AuthEvent} {r r' : Nat} (kind : e'.kind = e.kind)
    (source : e'.source = e.source)
    (name : e'.username.map trimmed = e.username.map trimmed)
    (length : (g.attempt e r).1.number?.isSome → (g.attempt e' r').1.number?.isSome →
      g.settings.drawDelay r' = g.settings.drawDelay r) :
    g.attempt e' r' = g.attempt e r := by
  have principal : e'.principal? = e.principal? := by
    apply Option.ext
    intro username
    rw [AuthEvent.principal?_eq_some_iff, AuthEvent.principal?_eq_some_iff, name]
  have exempts : g.exempts e' = g.exempts e := by
    rw [Guard.exempts, source, Guard.exempts]
  have considers (considered : g.Considers e) : g.Considers e' :=
    ⟨considered.enabled, considered.opened, exempts.trans considered.notExempt⟩
  obtain ⟨verdict, after, first, decided⟩ : ∃ verdict after,
      g.attempt e r = (verdict, after) ∧ Guard.Decides g e r verdict after :=
    ⟨_, _, rfl, Guard.attempt_decides g e r⟩
  rw [first]
  rw [first] at length
  cases decided with
  | disabled off => exact (Guard.Decides.disabled off).attempt_eq
  | whitelisted enabled opened exempt =>
    exact (Guard.Decides.whitelisted enabled opened (exempts.trans exempt)).attempt_eq
  | noUsername considered anonymous =>
    exact (Guard.Decides.noUsername (considers considered)
      (principal.trans anonymous)).attempt_eq
  | concurrent considered named found =>
    exact (Guard.Decides.concurrent (considers considered) (principal.trans named)
      found).attempt_eq
  | notAFailure considered named free mild =>
    exact (Guard.Decides.notAFailure (considers considered) (principal.trans named) free
      (kind ▸ mild)).attempt_eq
  | tooManyBlocked considered named free failed full =>
    exact (Guard.Decides.tooManyBlocked (considers considered) (principal.trans named) free
      (kind ▸ failed) full).attempt_eq
  | @delayed username considered named free failed room =>
    have second : g.attempt e' r' = (.delayed g.nextId, g.hold username r') :=
      (Guard.Decides.delayed (considers considered) (principal.trans named) free
        (kind ▸ failed) room).attempt_eq
    have drawn := length rfl (by rw [second]; rfl)
    rw [second, Guard.hold, drawn]
    rfl

theorem resolve_plain (l : LoginState) {event : LoginEvent} (quiet : event.attempts = 0) :
    l.resolve event.plain = l.resolve event := by
  have twice (name : String) : trimmed (trimmed name) = trimmed name := by
    simp [trimmed, Text.trim_trim]
  cases event with
  | attempt => contradiction
  | wake name place | cancel name place =>
    dsimp only [LoginEvent.plain, resolve, number?]
    rw [twice]
  | _ => rfl

theorem outcome_quiet (l : LoginState) {event : LoginEvent} (quiet : event.attempts = 0) :
    l.outcome event = none := by
  cases event with
  | attempt => contradiction
  | _ => rfl

theorem quiet_congr {l : LoginState} {event event' : LoginEvent} (quiet : event.attempts = 0)
    (quiet' : event'.attempts = 0) (plain : event.plain = event'.plain) (username : String) :
    l.step event' = l.step event ∧ l.view username event' = l.view username event := by
  have resolved : l.resolve event' = l.resolve event := by
    rw [← resolve_plain l quiet, ← resolve_plain l quiet', plain]
  have stepped : l.step event' = l.step event := by
    rw [step, step, resolved, logged_quiet l quiet, logged_quiet l quiet']
  have ended : l.endings event' = l.endings event := by
    rw [endings, endings, resolved]
  refine ⟨stepped, ?_⟩
  unfold view
  rw [stepped, ended, outcome_quiet l quiet, outcome_quiet l quiet']

theorem step_congr {l : LoginState} {event event' : LoginEvent}
    (agree : AgreeOn (event, l.drawn event) (event', l.drawn event')) (username : String) :
    l.step event' = l.step event ∧ l.view username event' = l.view username event := by
  obtain ⟨plain, drawn⟩ := agree
  cases event with
  | attempt e r =>
    cases event' with
    | attempt e' r' =>
      have parts := (LoginEvent.attempt.inj plain).1
      have kind : e'.kind = e.kind := (congrArg AuthEvent.kind parts).symm
      have source : e'.source = e.source := (congrArg AuthEvent.source parts).symm
      have name : e'.username.map trimmed = e.username.map trimmed :=
        (congrArg AuthEvent.username parts).symm
      have length (one : (l.guard.attempt e r).1.number?.isSome)
          (two : (l.guard.attempt e' r').1.number?.isSome) :
          l.guard.settings.drawDelay r' = l.guard.settings.drawDelay r := by
        obtain ⟨id, one⟩ := Option.isSome_iff_exists.mp one
        obtain ⟨id', two⟩ := Option.isSome_iff_exists.mp two
        exact (drawn _ (by simp [LoginState.drawn, one]) _ (by simp [LoginState.drawn, two])).symm
      have same := attempt_congr kind source name length
      have stepped : l.step (.attempt e' r') = l.step (.attempt e r) := by
        dsimp only [step, resolve, logged, Option.elim, Guard.step]
        rw [same, name]
      have outcomes : l.outcome (.attempt e' r') = l.outcome (.attempt e r) := by
        dsimp only [outcome]
        rw [same] at length ⊢
        cases verdict : (l.guard.attempt e r).1 with
        | passed | rejected => rfl
        | delayed id =>
          rw [verdict] at length
          dsimp only
          rw [length rfl rfl]
      refine ⟨stepped, ?_⟩
      unfold view
      rw [stepped, outcomes]
      rfl
    | _ => cases plain
  | _ =>
    have quiet' : event'.attempts = 0 := by
      cases event' with
      | attempt => cases plain
      | _ => rfl
    exact quiet_congr rfl quiet' plain username

theorem walk_congr {l : LoginState} {username : String} {first second : List LoginEvent}
    (agree : List.Forall₂ AgreeOn ((l.walk first).map fun p => (p.2, p.1.drawn p.2))
      ((l.walk second).map fun p => (p.2, p.1.drawn p.2))) :
    (l.walk first).map (fun p => p.1.view username p.2) =
      (l.walk second).map fun p => p.1.view username p.2 := by
  induction first generalizing l second with
  | nil =>
    cases second with
    | nil => rfl
    | cons event rest => cases agree
  | cons event rest ih =>
    cases second with
    | nil => cases agree
    | cons event' rest' =>
      obtain ⟨head, tail⟩ := List.forall₂_cons.mp agree
      obtain ⟨stepped, viewed⟩ : l.step event' = l.step event ∧
          l.view username event' = l.view username event := step_congr head username
      rw [stepped] at tail
      rw [walk, walk, List.map_cons, List.map_cons, stepped, viewed, ih tail]

/-- In two runs of a guard without a cap that agree in all events that concern a username, up to
white space around it, and in the lengths of the delays that both of them draw, the same is seen of
the username at each of these events, whatever else happens in between. -/
theorem usernames_isolated {config : BruteForceConfig} {start : Guard} {username : String}
    {first second : List LoginEvent} (started : Guard.ofConfig config = .ok start)
    (few : LoginEvent.attemptsIn first < UInt64.size)
    (few' : LoginEvent.attemptsIn second < UInt64.size)
    (uncapped : ∀ before, before <+: first →
      (run { guard := start } before).guard.settings.maxBlocked = 0)
    (uncapped' : ∀ before, before <+: second →
      (run { guard := start } before).guard.settings.maxBlocked = 0)
    (agree : List.Forall₂ AgreeOn (inputs { guard := start } username first)
      (inputs { guard := start } username second)) :
    report { guard := start } username first = report { guard := start } username second := by
  obtain ⟨settings, _, rfl⟩ := Guard.ofConfig_eq_ok_iff.mp started
  have logged := logged_start settings
  rw [← Nat.zero_add (LoginEvent.attemptsIn first)] at few
  rw [← Nat.zero_add (LoginEvent.attemptsIn second)] at few'
  -- both runs are now runs of the same state, the username's own
  rw [inputs_alone logged few uncapped, inputs_alone logged few' uncapped'] at agree
  rw [report_alone logged few uncapped, report_alone logged few' uncapped', walk_congr agree]

/-- Bob comes before Alice in one run only, where her delay is the second one and drawn with another
random number. -/
theorem usernames_isolated_bob :
    let failure (username : String) : AuthEvent :=
      { kind := .badCredentials, username := some username }
    let config : BruteForceConfig := { maxBlocked := 0, whitelist := [] }
    let first : List LoginEvent :=
      [.attempt (failure " alice ") 3, .attempt (failure "alice") 0, .elapse 1003]
    let second : List LoginEvent :=
      [.attempt (failure "bob") 7, .attempt (failure "alice") 4004, .cancel "bob" 0,
        .attempt (failure "alice\n") 1, .attempt (failure "bob") 0, .elapse 1003]
    ∃ start, Guard.ofConfig config = .ok start ∧
      LoginEvent.attemptsIn first < UInt64.size ∧
      LoginEvent.attemptsIn second < UInt64.size ∧
      (∀ before, before <+: first →
        (run { guard := start } before).guard.settings.maxBlocked = 0) ∧
      (∀ before, before <+: second →
        (run { guard := start } before).guard.settings.maxBlocked = 0) ∧
      List.Forall₂ AgreeOn (inputs { guard := start } "alice" first)
        (inputs { guard := start } "alice" second) ∧
      report { guard := start } "alice" first = report { guard := start } "alice" second ∧
      (report { guard := start } "alice" second).map LoginView.ended = [[], [], [(0, 1003)]] := by
  intro failure config first second
  obtain ⟨start, started⟩ : ∃ start, Guard.ofConfig config = .ok start := ⟨_, rfl⟩
  have facts : (∀ before ∈ first.inits,
        (run { guard := start } before).guard.settings.maxBlocked = 0) ∧
      (∀ before ∈ second.inits,
        (run { guard := start } before).guard.settings.maxBlocked = 0) ∧
      List.Forall₂ AgreeOn (inputs { guard := start } "alice" first)
        (inputs { guard := start } "alice" second) ∧
      (report { guard := start } "alice" second).map LoginView.ended = [[], [], [(0, 1003)]] := by
    obtain rfl := Except.ok.inj started
    decide +kernel
  obtain ⟨uncapped, uncapped', agree, ended⟩ := facts
  simp only [List.mem_inits] at uncapped uncapped'
  have few : LoginEvent.attemptsIn first < UInt64.size := by decide
  have few' : LoginEvent.attemptsIn second < UInt64.size := by decide
  exact ⟨start, started, few, few', uncapped, uncapped', agree,
    usernames_isolated started few few' uncapped uncapped' agree, ended⟩

end LoginState
end MapGate
