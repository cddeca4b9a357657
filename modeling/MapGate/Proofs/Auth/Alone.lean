import MapGate.Proofs.Auth.Restriction

/-!
The guard with its log as one username has them. Unless the number of usernames is capped, this is
what the guard would be like if nothing had happened to any other username.
-/
namespace MapGate

namespace LoginState

/-- The numbers of a username, in the order in which they were handed out. -/
def ids (l : LoginState) (username : String) : List UInt64 :=
  (l.attemptsOf username).filterMap LoggedAttempt.number

def alone (l : LoginState) (username : String) : LoginState where
  guard := l.guard.restrict username (l.ids username)
  log := (l.attemptsOf username).map (·.renumber (l.ids username))

theorem attemptsOf_alone (l : LoginState) (username : String) :
    (l.alone username).attemptsOf username = (l.alone username).log := by
  unfold attemptsOf alone
  rw [List.filter_eq_self]
  intro a member
  obtain ⟨b, own, rfl⟩ := List.mem_map.mp member
  exact (List.mem_filter.mp own).2

theorem number?_alone (l : LoginState) (name : String) (place : Nat) :
    (l.alone (trimmed name)).number? name place =
      (l.number? name place).map (rank (l.ids (trimmed name))) := by
  unfold number?
  rw [attemptsOf_alone, alone, List.getElem?_map]
  cases (l.attemptsOf (trimmed name))[place]? <;> rfl

theorem mem_ids_of_number? {l : LoginState} {name : String} {place : Nat} {id : UInt64}
    (found : l.number? name place = some id) : id ∈ l.ids (trimmed name) := by
  obtain ⟨a, listed, number⟩ := Option.bind_eq_some_iff.mp found
  exact List.mem_filterMap.mpr ⟨a, List.mem_of_getElem? listed, number⟩

theorem mem_ids_iff {l : LoginState} {username : String} {id : UInt64} :
    id ∈ l.ids username ↔ ⟨some username, some id⟩ ∈ l.log := by
  unfold ids attemptsOf
  rw [List.mem_filterMap]
  constructor
  · rintro ⟨⟨name, number⟩, member, rfl⟩
    obtain ⟨listed, own⟩ := List.mem_filter.mp member
    obtain rfl := beq_iff_eq.mp own
    exact listed
  · intro listed
    exact ⟨_, List.mem_filter.mpr ⟨listed, beq_self_eq_true _⟩, rfl⟩

namespace Logged

variable {l : LoginState} {n : Nat}

theorem numbers (logged : Logged l n) (few : n < UInt64.size) (username : String) :
    l.guard.Numbers username (l.ids username) where
  entries := by
    rintro e listed rfl
    have owned := logged.tracked.owned e.key (List.mem_map_of_mem listed)
    exact mem_ids_iff.mpr (logged.delays e.key owned)
  delays := by
    rintro d running rfl
    exact mem_ids_iff.mpr (logged.delays d.key (List.mem_map_of_mem running))
  few := by
    have fewer : (l.ids username).length ≤ l.log.length :=
      Nat.le_trans (List.length_filterMap_le _ _) (List.length_filter_le _ _)
    exact Nat.lt_of_le_of_lt (Nat.le_trans fewer logged.length) few

theorem fresh (logged : Logged l n) (username : String) : l.guard.nextId ∉ l.ids username := by
  intro known
  exact Nat.lt_irrefl _ (logged.below _ (mem_ids_iff.mp known) _ rfl)

theorem one_name (logged : Logged l n) {username other : String} {id : UInt64}
    (first : id ∈ l.ids username) (second : id ∈ l.ids other) : username = other := by
  have names := logged.owner _ (mem_ids_iff.mp first) _ (mem_ids_iff.mp second) rfl
    (Option.some_ne_none id)
  exact Option.some.inj names

end Logged

theorem attemptsOf_step (l : LoginState) (event : LoginEvent) (username : String) :
    (l.step event).attemptsOf username =
      l.attemptsOf username ++ (l.logged event).filter (·.name == some username) :=
  List.filter_append ..

theorem ids_step (l : LoginState) (event : LoginEvent) (username : String) :
    (l.step event).ids username = l.ids username ++
      ((l.logged event).filter (·.name == some username)).filterMap LoggedAttempt.number := by
  rw [ids, attemptsOf_step, List.filterMap_append, ids]

/-- Numbers that come later do not change the places of those in the log. -/
theorem renumber_attemptsOf (l : LoginState) (username : String) (more : List UInt64) :
    (l.attemptsOf username).map (·.renumber (l.ids username ++ more)) =
      (l.attemptsOf username).map (·.renumber (l.ids username)) := by
  apply List.map_congr_left
  intro a member
  cases number : a.number with
  | none => simp [LoggedAttempt.renumber, number]
  | some id =>
    have known : id ∈ l.ids username := List.mem_filterMap.mpr ⟨a, member, number⟩
    simp [LoggedAttempt.renumber, number, rank_append known]

theorem ids_attempt (l : LoginState) {event : AuthEvent} {username : String}
    (own : event.username.map trimmed = some username) (random : Nat) :
    (l.step (.attempt event random)).ids username =
      l.ids username ++ (l.guard.attempt event random).1.number?.toList := by
  rw [ids_step, logged, own]
  cases (l.guard.attempt event random).1.number? <;> simp

/-- An attempt for the username is decided by what the guard has for it, but for the number. -/
theorem attempt_alone {l : LoginState} {n : Nat} (logged : Logged l n) (few : n < UInt64.size)
    (uncapped : l.guard.settings.maxBlocked = 0) {event : AuthEvent} {username : String}
    (own : event.username.map trimmed = some username) (random : Nat) :
    let more := l.ids username ++ (l.guard.attempt event random).1.number?.toList
    (l.alone username).guard.attempt event random =
      ((l.guard.attempt event random).1.renumber more,
        (l.guard.attempt event random).2.restrict username more) := by
  have decided := Guard.attempt_decides l.guard event random
  exact (decided.restrict (logged.numbers few username) (logged.fresh username) uncapped
    own).attempt_eq

theorem alone_attempt_self {l : LoginState} {n : Nat} (logged : Logged l n)
    (few : n + 1 < UInt64.size) (uncapped : l.guard.settings.maxBlocked = 0) {event : AuthEvent}
    {username : String} (own : event.username.map trimmed = some username) (random : Nat) :
    (l.step (.attempt event random)).alone username =
      (l.alone username).step (.attempt event random) := by
  have same := attempt_alone logged (Nat.lt_of_succ_lt few) uncapped own random
  rw [alone, ids_attempt l own, attemptsOf_step, List.map_append, renumber_attemptsOf]
  unfold step
  dsimp only [resolve, LoginState.logged, Option.elim, Guard.step]
  rw [same, own, Verdict.number?_renumber, alone]
  simp [LoggedAttempt.renumber]

theorem alone_quiet {l : LoginState} {event : LoginEvent} (quiet : event.attempts = 0)
    (username : String) : (l.step event).alone username =
      ⟨(l.step event).guard.restrict username (l.ids username), (l.alone username).log⟩ := by
  have none := l.logged_quiet quiet
  have same : (l.step event).attemptsOf username = l.attemptsOf username := by
    rw [attemptsOf_step, none, List.filter_nil, List.append_nil]
  rw [alone, ids, same]
  rfl

theorem resolve_alone {l : LoginState} {event : LoginEvent} {username : String}
    (concerned : event.concerns username = true) :
    (l.alone username).resolve event =
      (l.resolve event).map (·.renumber (l.ids username)) := by
  cases event with
  | wake name place | cancel name place =>
    obtain rfl := beq_iff_eq.mp concerned
    rw [resolve, number?_alone, resolve, Option.map_map, Option.map_map]
    rfl
  | _ => rfl

theorem mem_ids_of_resolve {l : LoginState} {event : LoginEvent} {username : String}
    (concerned : event.concerns username = true) {resolved : GuardEvent}
    (found : l.resolve event = some resolved) :
    ∀ id ∈ resolved.number?, id ∈ l.ids username := by
  cases event with
  | wake name place | cancel name place =>
    obtain rfl := beq_iff_eq.mp concerned
    obtain ⟨id, known, rfl⟩ := Option.map_eq_some_iff.mp found
    intro other same
    obtain rfl := Option.some.inj same
    exact mem_ids_of_number? known
  | _ =>
    obtain rfl := Option.some.inj found
    simp [GuardEvent.number?]

/-- An event that concerns the username happens to it as if it were alone. -/
theorem alone_step_self {l : LoginState} {n : Nat} (logged : Logged l n) {event : LoginEvent}
    (few : n + event.attempts < UInt64.size) (uncapped : l.guard.settings.maxBlocked = 0)
    {username : String} (concerned : event.concerns username = true) :
    (l.step event).alone username = (l.alone username).step event := by
  by_cases quiet : event.attempts = 0
  · rw [quiet] at few
    have numbers := logged.numbers few username
    rw [alone_quiet quiet, step, step, resolve_alone concerned, logged_quiet _ quiet,
      logged_quiet _ quiet, List.append_nil, List.append_nil]
    congr 1
    cases found : l.resolve event with
    | none => rfl
    | some resolved =>
      have still := (resolve_attempts found).trans quiet
      exact Guard.restrict_step numbers still (mem_ids_of_resolve concerned found)
  · cases event with
    | attempt event random =>
      exact alone_attempt_self logged few uncapped (beq_iff_eq.mp concerned) random
    | _ => exact absurd rfl quiet

theorem alone_step_other {l : LoginState} {n : Nat} (logged : Logged l n) {event : LoginEvent}
    (few : n + event.attempts < UInt64.size) {username : String}
    (other : event.concerns username = false) :
    (l.step event).alone username = l.alone username := by
  have numbers := logged.numbers (Nat.lt_of_le_of_lt (Nat.le_add_right n _) few) username
  -- a number found under another username is of no delay of this one
  have apart {name : String} (elsewhere : (trimmed name == username) = false) {place : Nat}
      {id : UInt64} (found : l.number? name place = some id) :
      ∀ d ∈ l.guard.running, d.username = username → (d.id == id) = false := by
    intro d running own
    rw [beq_eq_false_iff_ne]
    rintro rfl
    have same := logged.one_name (mem_ids_of_number? found) (numbers.delays d running own)
    exact beq_eq_false_iff_ne.mp elsewhere same
  cases event with
  | attempt event random =>
    have differs := beq_eq_false_iff_ne.mp other
    have ids : (l.step (.attempt event random)).ids username = l.ids username := by
      rw [ids_step, LoginState.logged]
      simp [differs]
    have attempts : (l.step (.attempt event random)).attemptsOf username =
        l.attemptsOf username := by
      rw [attemptsOf_step, LoginState.logged]
      simp [differs]
    rw [alone, ids, attempts, alone]
    congr 1
    exact Guard.attempt_restrict_other l.guard differs _ random
  | wake name place | cancel name place =>
    rw [alone_quiet rfl, alone]
    congr 1
    dsimp only [step, resolve]
    cases found : l.number? name place with
    | none => rfl
    | some id =>
      refine Guard.restrict_finish_other numbers ?_
      intro d running own
      simp [apart other found d running own]
  | _ => contradiction

end LoginState
end MapGate
