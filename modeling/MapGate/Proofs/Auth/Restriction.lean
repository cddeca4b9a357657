import Mathlib.Data.List.Basic
import MapGate.Proofs.Auth.LoginRun

/-!
What a guard has for one username. Only its entry and its delays are left, and they are numbered
from zero in the order of a list of numbers, which may leave out those of other usernames. Each
operation on the guard either does the same to what is left, or nothing.
-/
namespace MapGate

def rank (ids : List UInt64) (id : UInt64) : UInt64 := UInt64.ofNat (ids.idxOf id)

theorem rank_inj {ids : List UInt64} (few : ids.length < UInt64.size) {a : UInt64} (known : a ∈ ids)
    (b : UInt64) : rank ids a = rank ids b ↔ a = b := by
  constructor
  · intro same
    have below (id : UInt64) : ids.idxOf id < UInt64.size :=
      Nat.lt_of_le_of_lt List.idxOf_le_length few
    have places := congrArg UInt64.toNat same
    rw [rank, rank, UInt64.toNat_ofNat_of_lt' (below a), UInt64.toNat_ofNat_of_lt' (below b)]
      at places
    exact (List.idxOf_inj known).mp places
  · rintro rfl
    rfl

theorem rank_beq {ids : List UInt64} (few : ids.length < UInt64.size) {id : UInt64}
    (known : id ∈ ids) (other : UInt64) : (rank ids other == rank ids id) = (other == id) := by
  have iff := rank_inj few known other
  rw [Bool.eq_iff_iff, beq_iff_eq, beq_iff_eq]
  exact ⟨fun same => (iff.mp same.symm).symm, fun same => (iff.mpr same.symm).symm⟩

theorem rank_append {ids : List UInt64} {id : UInt64} (known : id ∈ ids) (more : List UInt64) :
    rank (ids ++ more) id = rank ids id := by
  rw [rank, rank, List.idxOf_append_of_mem known]

theorem rank_fresh {ids : List UInt64} {id : UInt64} (fresh : id ∉ ids) :
    rank (ids ++ [id]) id = UInt64.ofNat ids.length := by
  rw [rank, List.idxOf_append_of_notMem fresh]
  simp

def TrackerEntry.renumber (ids : List UInt64) (e : TrackerEntry) : TrackerEntry :=
  { e with id := rank ids e.id }

def Delay.renumber (ids : List UInt64) (d : Delay) : Delay := { d with id := rank ids d.id }

def LoggedAttempt.renumber (ids : List UInt64) (a : LoggedAttempt) : LoggedAttempt :=
  { a with number := a.number.map (rank ids) }

def Verdict.renumber (ids : List UInt64) : Verdict → Verdict
  | passed why => passed why
  | rejected why => rejected why
  | delayed id => delayed (rank ids id)

def GuardEvent.renumber (ids : List UInt64) : GuardEvent → GuardEvent
  | wake id => wake (rank ids id)
  | cancel id => cancel (rank ids id)
  | event => event

def GuardEvent.number? : GuardEvent → Option UInt64
  | wake id => some id
  | cancel id => some id
  | _ => none

theorem Verdict.number?_renumber (ids : List UInt64) (verdict : Verdict) :
    (verdict.renumber ids).number? = verdict.number?.map (rank ids) := by
  cases verdict <;> rfl

namespace Guard

/-- What a guard has for a username whose numbers are `ids`. -/
def restrict (g : Guard) (username : String) (ids : List UInt64) : Guard :=
  { g with
    tracker := (g.tracker.filter fun e => e.username == username).map (·.renumber ids)
    nextId := UInt64.ofNat ids.length
    running := (g.running.filter fun d => d.username == username).map (·.renumber ids) }

/-- The list has the numbers of a username. -/
structure Numbers (g : Guard) (username : String) (ids : List UInt64) : Prop where
  entries : ∀ e ∈ g.tracker, e.username = username → e.id ∈ ids
  delays : ∀ d ∈ g.running, d.username = username → d.id ∈ ids
  few : ids.length < UInt64.size

theorem entry?_restrict (g : Guard) (username : String) (ids : List UInt64) :
    entry? (g.restrict username ids) username = (g.entry? username).map (·.renumber ids) := by
  unfold entry? restrict
  rw [List.find?_map, List.find?_filter]
  congr 2
  funext e
  simp [TrackerEntry.renumber, beq_eq_decide]

theorem isTracked_restrict (g : Guard) (username : String) (ids : List UInt64) :
    (g.restrict username ids).isTracked username = g.isTracked username := by
  rw [isTracked, entry?_restrict, Option.isSome_map, isTracked]

theorem filter_countAttempt (tracker : List TrackerEntry) (username other : String) :
    (countAttempt tracker other).filter (fun e => e.username == username) =
      countAttempt (tracker.filter fun e => e.username == username) other := by
  unfold countAttempt
  rw [List.filter_map]
  congr 2
  funext e
  dsimp only [Function.comp]
  split <;> rfl

theorem countAttempt_renumber (tracker : List TrackerEntry) (username : String)
    (ids : List UInt64) :
    countAttempt (tracker.map (·.renumber ids)) username =
      (countAttempt tracker username).map (·.renumber ids) := by
  unfold countAttempt
  rw [List.map_map, List.map_map]
  congr 1
  funext e
  dsimp only [Function.comp, TrackerEntry.renumber]
  split <;> rfl

theorem restrict_countAttempt_self (g : Guard) (username : String) (ids : List UInt64) :
    restrict { g with tracker := countAttempt g.tracker username } username ids =
      { g.restrict username ids with
        tracker := countAttempt (g.restrict username ids).tracker username } := by
  unfold restrict
  rw [filter_countAttempt, countAttempt_renumber]

theorem restrict_countAttempt_other (g : Guard) {username other : String}
    (differs : other ≠ username) (ids : List UInt64) :
    restrict { g with tracker := countAttempt g.tracker other } username ids =
      g.restrict username ids := by
  have same : countAttempt (g.tracker.filter fun e => e.username == username) other =
      g.tracker.filter fun e => e.username == username := by
    refine (List.map_congr_left ?_).trans (List.map_id _)
    intro e member
    have own := beq_iff_eq.mp (List.mem_filter.mp member).2
    have elsewhere : ¬ (e.username == other) = true := by
      rw [own]
      simpa using differs.symm
    rw [if_neg elsewhere, id]
  unfold restrict
  rw [filter_countAttempt, same]

theorem restrict_hold_self {g : Guard} {username : String} {ids : List UInt64}
    (numbers : g.Numbers username ids) (fresh : g.nextId ∉ ids) (random : Nat) :
    (g.hold username random).restrict username (ids ++ [g.nextId]) =
      (g.restrict username ids).hold username random := by
  have entries : ∀ e ∈ g.tracker, e.username = username →
      rank (ids ++ [g.nextId]) e.id = rank ids e.id :=
    fun e listed own => rank_append (numbers.entries e listed own) _
  have delays : ∀ d ∈ g.running, d.username = username →
      rank (ids ++ [g.nextId]) d.id = rank ids d.id :=
    fun d listed own => rank_append (numbers.delays d listed own) _
  simpa [restrict, hold, TrackerEntry.renumber, Delay.renumber, rank_fresh fresh,
    UInt64.ofNat_add] using And.intro entries delays

theorem restrict_hold_other (g : Guard) {username other : String} (differs : other ≠ username)
    (ids : List UInt64) (random : Nat) :
    (g.hold other random).restrict username ids = g.restrict username ids := by
  simp [restrict, hold, differs]

theorem restrict_finish {g : Guard} {username : String} {ids : List UInt64}
    (numbers : g.Numbers username ids) {ends ends' : Delay → Bool}
    (same : ∀ d ∈ g.running, d.username = username → ends' (d.renumber ids) = ends d) :
    (g.finish ends).restrict username ids = (g.restrict username ids).finish ends' := by
  -- an entry goes with the delay that has its name and number; both are renumbered alike
  have gone : ∀ e ∈ g.tracker, e.username = username →
      (((g.restrict username ids).running.filter ends').any fun d =>
        d.username == (e.renumber ids).username && d.id == (e.renumber ids).id) =
      (g.running.filter ends).any fun d => d.username == e.username && d.id == e.id := by
    intro e listed own
    rw [Bool.eq_iff_iff]
    simp only [restrict, List.any_eq_true, List.mem_filter, List.mem_map, Bool.and_eq_true,
      beq_iff_eq]
    constructor
    · rintro ⟨_, ⟨⟨d, ⟨running, mine⟩, rfl⟩, ended⟩, name, number⟩
      exact ⟨d, ⟨running, (same d running mine).symm.trans ended⟩, name,
        (rank_inj numbers.few (numbers.delays d running mine) e.id).mp number⟩
    · rintro ⟨d, ⟨running, ended⟩, name, number⟩
      have mine := name.trans own
      exact ⟨d.renumber ids, ⟨⟨d, ⟨running, mine⟩, rfl⟩, (same d running mine).trans ended⟩, name,
        congrArg (rank ids) number⟩
  have entries : ((g.finish ends).restrict username ids).tracker =
      ((g.restrict username ids).finish ends').tracker := by
    dsimp only [finish, restrict, release]
    rw [List.filter_map, List.filter_filter, List.filter_filter]
    congr 1
    apply List.filter_congr
    intro e listed
    by_cases own : e.username = username
    · have released := gone e listed own
      dsimp only [restrict] at released
      rw [Function.comp, released, Bool.and_comm]
    · rw [beq_eq_false_iff_ne.mpr own, Bool.false_and, Bool.and_false]
  have delays : ((g.finish ends).restrict username ids).running =
      ((g.restrict username ids).finish ends').running := by
    dsimp only [finish, restrict]
    rw [List.filter_map, List.filter_filter, List.filter_filter]
    congr 1
    apply List.filter_congr
    intro d running
    by_cases own : d.username = username
    · rw [Function.comp, same d running own, Bool.and_comm]
    · rw [beq_eq_false_iff_ne.mpr own, Bool.false_and, Bool.and_false]
  exact Guard.mk.injEq .. |>.mpr ⟨rfl, entries, rfl, rfl, rfl, delays⟩

theorem finish_none (g : Guard) : g.finish (fun _ => false) = g := by
  simp [finish, release]

theorem Decides.attempt_eq {g after : Guard} {event : AuthEvent} {random : Nat} {verdict : Verdict}
    (decided : Decides g event random verdict after) :
    g.attempt event random = (verdict, after) := by
  cases decided with
  | disabled off => simp [attempt, off]
  | whitelisted enabled opened exempt => simp [attempt, enabled, opened, exempt]
  | noUsername considered anonymous =>
    simp [attempt, considered.enabled, considered.opened, considered.notExempt, anonymous]
  | concurrent considered named found => exact attempt_tracked considered named found random
  | notAFailure considered named free mild =>
    simp [attempt, considered.enabled, considered.opened, considered.notExempt, named, free, mild]
  | tooManyBlocked considered named free failed full =>
    have full : 0 < g.settings.maxBlocked ∧ g.settings.maxBlocked ≤ g.trackedCount := full
    simp [attempt, considered.enabled, considered.opened, considered.notExempt, named, free, failed,
      full]
  | delayed considered named free failed room =>
    have room : ¬ (0 < g.settings.maxBlocked ∧ g.settings.maxBlocked ≤ g.trackedCount) := room
    simp only [attempt, considered.enabled, considered.opened, considered.notExempt, named, free,
      failed, if_neg room]
    rfl

/-- Without a cap, an attempt for the username is decided by what the guard has for it. -/
theorem Decides.restrict {g after : Guard} {username : String} {ids : List UInt64}
    (numbers : g.Numbers username ids) (fresh : g.nextId ∉ ids)
    (uncapped : g.settings.maxBlocked = 0) {event : AuthEvent}
    (own : event.username.map trimmed = some username) {random : Nat} {verdict : Verdict}
    (decided : Decides g event random verdict after) :
    Decides (g.restrict username ids) event random
      (verdict.renumber (ids ++ verdict.number?.toList))
      (after.restrict username (ids ++ verdict.number?.toList)) := by
  have mine {name : String} (named : event.principal? = some name) : username = name := by
    have same := (AuthEvent.principal?_eq_some_iff.mp named).1
    exact Option.some.inj (own.symm.trans same)
  have considers (considered : g.Considers event) : (g.restrict username ids).Considers event :=
    ⟨considered.enabled, considered.opened, considered.notExempt⟩
  have found {entry : Option TrackerEntry} (entered : g.entry? username = entry) :
      entry? (g.restrict username ids) username = entry.map (·.renumber ids) := by
    rw [entry?_restrict, entered]
  cases decided <;> simp only [Verdict.number?, Verdict.renumber, Option.toList_none,
    Option.toList_some, List.append_nil]
  case disabled off => exact .disabled off
  case whitelisted enabled opened exempt => exact .whitelisted enabled opened exempt
  case noUsername considered anonymous => exact .noUsername (considers considered) anonymous
  case concurrent name entry considered named entered =>
    obtain rfl := mine named
    rw [restrict_countAttempt_self]
    have refused : Decides (g.restrict username ids) event random _ _ :=
      .concurrent (considers considered) named (found entered)
    exact refused
  case notAFailure name considered named free mild =>
    obtain rfl := mine named
    exact .notAFailure (considers considered) named (found free) mild
  case tooManyBlocked name considered named free failed full =>
    exact absurd full.1 (by simp [uncapped])
  case delayed name considered named free failed room =>
    obtain rfl := mine named
    have empty : ¬ (g.restrict username ids).IsFull := by
      rintro ⟨capped, _⟩
      exact Nat.lt_irrefl 0 (uncapped ▸ capped)
    rw [rank_fresh fresh, restrict_hold_self numbers fresh]
    exact .delayed (considers considered) named (found free) failed empty

theorem attempt_restrict_other (g : Guard) {username : String} {event : AuthEvent}
    (other : event.username.map trimmed ≠ some username) (ids : List UInt64) (random : Nat) :
    (g.attempt event random).2.restrict username ids = g.restrict username ids := by
  have decided := attempt_decides g event random
  generalize (g.attempt event random).1 = verdict, (g.attempt event random).2 = after at decided ⊢
  have differs {name : String} (named : event.principal? = some name) : name ≠ username := by
    rintro rfl
    exact other (AuthEvent.principal?_eq_some_iff.mp named).1
  cases decided with
  | disabled | whitelisted | noUsername | notAFailure | tooManyBlocked => rfl
  | concurrent considered named => exact restrict_countAttempt_other g (differs named) ids
  | delayed considered named => exact restrict_hold_other g (differs named) ids random

theorem restrict_finish_other {g : Guard} {username : String} {ids : List UInt64}
    (numbers : g.Numbers username ids) {ends : Delay → Bool}
    (others : ∀ d ∈ g.running, d.username = username → ends d = false) :
    (g.finish ends).restrict username ids = g.restrict username ids := by
  have finished : (g.finish ends).restrict username ids =
      (g.restrict username ids).finish fun _ => false :=
    restrict_finish numbers fun d running own => (others d running own).symm
  rw [finished, finish_none]

/-- Nothing but an attempt needs the numbers of other usernames. -/
theorem restrict_step {g : Guard} {username : String} {ids : List UInt64}
    (numbers : g.Numbers username ids) {event : GuardEvent} (quiet : event.attempts = 0)
    (known : ∀ id ∈ event.number?, id ∈ ids) :
    (g.step event).restrict username ids = (g.restrict username ids).step (event.renumber ids) := by
  cases event with
  | attempt => contradiction
  | elapse time =>
    have ended : (g.finish (isDue (g.now + time))).restrict username ids =
        (g.restrict username ids).finish (isDue (g.now + time)) :=
      restrict_finish numbers fun d running own => rfl
    exact congrArg (fun g' : Guard => { g' with now := g.now + time }) ended
  | wait time => rfl
  | wake id =>
    refine restrict_finish numbers ?_
    intro d running own
    exact congrArg (· && isDue g.now d) (rank_beq numbers.few (known id rfl) d.id)
  | cancel id =>
    refine restrict_finish numbers ?_
    intro d running own
    exact rank_beq numbers.few (known id rfl) d.id
  | reset => rfl
  | shutdown => rfl
  | reconfigure config =>
    dsimp only [step, reconfigure, GuardEvent.renumber]
    cases GuardSettings.ofConfig config <;> rfl

end Guard

end MapGate
