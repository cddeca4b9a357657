import Mathlib.Data.List.Induction
import MapGate.Proofs.Pipeline.CacheRun

/-!
A cache beside a memory of one pair of stage and key in which nothing ever goes for having expired.
The two may differ only in what has expired by now, and so will have expired from now on; that is
why no read can tell them apart. What is remembered is the last put, with the time of its last use,
unless a removal came since.
-/
namespace MapGate

/-- A read starts the idle timeout anew, unless it finds the entry expired. -/
def CacheEntry.renewed (now : Nat) (e : CacheEntry) : CacheEntry :=
  if e.isExpired now then e else { e with lastAccess := now }

theorem CacheEntry.renewed_of_valid {e : CacheEntry} {now : Nat} (valid : e.isExpired now = false) :
    e.renewed now = { e with lastAccess := now } := by
  simp [renewed, valid]

theorem CacheEntry.validAt_iff {e : CacheEntry} {now : Nat} :
    e.validAt now = true ↔ now - e.created < e.live ∧ now - e.lastAccess < e.idle := by
  simp [validAt, isExpired]

theorem renewed_of_lost {memory : Option CacheEntry} {now : Nat}
    (lost : memory.filter (CacheEntry.validAt now) = none) :
    memory.map (CacheEntry.renewed now) = memory := by
  cases memory with
  | none => rfl
  | some e =>
    have expired : e.isExpired now = true := by
      simpa [CacheEntry.validAt] using lost
    simp [CacheEntry.renewed, expired]

namespace CacheEvent

def concerns (stage key : String) (event : CacheEvent) : Bool :=
  event.puts stage key || event.removes stage key || event.gets stage key

/-- The time of a read that found a value for the pair. -/
def hit? (stage key : String) : CacheEvent × CacheAnswer → Option Nat
  | (.get now s k, .found (some _)) => if (s, k) = (stage, key) then some now else none
  | _ => none

/-- The clock goes from one time to another while the events happen. -/
def Between (start : Nat) (events : List CacheEvent) (finish : Nat) : Prop :=
  (start :: (events.filterMap reading? ++ [finish])).Pairwise (· ≤ ·)

theorem Between.cons {start finish : Nat} {event : CacheEvent} {rest : List CacheEvent}
    (between : Between start (event :: rest) finish) :
    ∃ time, start ≤ time ∧ (∀ now ∈ event.reading?, now = time) ∧ Between time rest finish := by
  unfold Between at between
  cases read : event.reading? with
  | none =>
    rw [List.filterMap_cons_none read] at between
    exact ⟨start, Nat.le_refl start, by simp, between⟩
  | some now =>
    rw [List.filterMap_cons_some read, List.cons_append] at between
    obtain ⟨first, later⟩ := List.pairwise_cons.mp between
    exact ⟨now, first now List.mem_cons_self, by simp, later⟩

theorem InTime.between {events : List CacheEvent} {now : Nat} {stage key : String}
    (inTime : InTime (events ++ [.get now stage key])) : Between 0 events now := by
  unfold InTime at inTime
  rw [List.filterMap_append] at inTime
  exact List.pairwise_cons.mpr ⟨fun time _ => Nat.zero_le time, inTime⟩

theorem InTime.around {before after : List CacheEvent} {event : CacheEvent} {time now : Nat}
    {stage key : String} (read : event.reading? = some time)
    (inTime : InTime (before ++ event :: after ++ [.get now stage key])) :
    Between 0 before time ∧ Between time after now := by
  unfold InTime at inTime
  rw [List.append_assoc, List.filterMap_append, List.cons_append, List.filterMap_cons_some read,
    List.filterMap_append] at inTime
  obtain ⟨first, second, order⟩ := List.pairwise_append.mp inTime
  constructor
  · apply List.pairwise_cons.mpr
    refine ⟨fun t _ => Nat.zero_le t, ?_⟩
    rw [List.pairwise_append]
    refine ⟨first, List.pairwise_singleton _ _, ?_⟩
    intro t member other last
    obtain rfl := List.mem_singleton.mp last
    exact order t member _ List.mem_cons_self
  · exact second

end CacheEvent

namespace AuthCache

/-- What would be known of a pair if expired entries stayed. -/
def remember (c : AuthCache) (stage key : String) (memory : Option CacheEntry) :
    CacheEvent → Option CacheEntry
  | .get now s k =>
    if (s, k) = (stage, key) then memory.map (CacheEntry.renewed now) else memory
  | .put now s k value idle live =>
    if (s, k) = (stage, key) then
      some ⟨s, k, value, now, now, idle.getD c.defaultIdle, live.getD c.defaultLive⟩
    else memory
  | .remove s k => if (s, k) = (stage, key) then none else memory
  | .removeStage s => if s = stage then none else memory
  | .clear => none
  | .evictExpired _ | .size => memory

def remembered (c : AuthCache) (stage key : String) (memory : Option CacheEntry)
    (events : List CacheEvent) : Option CacheEntry :=
  events.foldl (c.remember stage key) memory

/-- From a time on there is no difference between what was found and what is remembered. -/
def Mirrors (time : Nat) (found memory : Option CacheEntry) : Prop :=
  ∀ now, time ≤ now →
    found.filter (CacheEntry.validAt now) = memory.filter (CacheEntry.validAt now)

namespace Mirrors

variable {time : Nat} {found memory : Option CacheEntry}

theorem later (mirrors : Mirrors time found memory) {after : Nat} (order : time ≤ after) :
    Mirrors after found memory := by
  intro now reached
  exact mirrors now (Nat.le_trans order reached)

theorem sweep (mirrors : Mirrors time found memory) :
    Mirrors time (found.filter (CacheEntry.validAt time)) memory := by
  intro now reached
  rw [filter_validAt_later reached]
  exact mirrors now reached

theorem of_lost (lost : memory.filter (CacheEntry.validAt time) = none) :
    Mirrors time none memory := by
  intro now reached
  rw [← filter_validAt_later reached memory, lost]

/-- A read renews what it finds, in the cache as in the memory. If it finds nothing, what is
remembered has expired. -/
theorem get {c : AuthCache} {stage key : String}
    (mirrors : Mirrors time (c.find? stage key) memory) :
    Mirrors time ((c.get time stage key).2.find? stage key)
      (memory.map (CacheEntry.renewed time)) := by
  have reads := get_reads c time stage key
  have same := mirrors time (Nat.le_refl time)
  generalize (c.get time stage key).1 = answer, (c.get time stage key).2 = after at reads ⊢
  cases reads with
  | missing absent =>
    rw [absent] at same ⊢
    rw [renewed_of_lost same.symm]
    exact of_lost same.symm
  | expired found expired =>
    rw [found] at same
    have lost : memory.filter (CacheEntry.validAt time) = none := by
      rw [← same]
      simp [CacheEntry.validAt, expired]
    rw [find?_remove_self, renewed_of_lost lost]
    exact of_lost lost
  | @hit e found valid =>
    have kept : memory = some e := by
      rw [found] at same
      have valid : memory.filter (CacheEntry.validAt time) = some e := by
        rw [← same]
        simp [CacheEntry.validAt, valid]
      exact (Option.filter_eq_some_iff.mp valid).1
    rw [find?_touch_self found, kept, Option.map_some, CacheEntry.renewed_of_valid valid]
    exact fun now _ => rfl

end Mirrors

theorem find?_get_other (c : AuthCache) {s k stage key : String} (now : Nat)
    (other : (s, k) ≠ (stage, key)) :
    (c.get now s k).2.find? stage key = c.find? stage key := by
  have reads := get_reads c now s k
  generalize (c.get now s k).1 = answer, (c.get now s k).2 = after at reads ⊢
  cases reads with
  | missing => rfl
  | expired => exact find?_remove_other c other
  | hit => exact find?_touch_other c now other

theorem step_defaults (c : AuthCache) (event : CacheEvent) :
    (c.step event).defaultIdle = c.defaultIdle ∧ (c.step event).defaultLive = c.defaultLive := by
  cases event with
  | get now stage key =>
    have reads := get_reads c now stage key
    dsimp only [step]
    generalize (c.get now stage key).1 = answer, (c.get now stage key).2 = after at reads ⊢
    cases reads <;> exact ⟨rfl, rfl⟩
  | put now stage key value idle live =>
    dsimp only [step]
    rw [put_eq]
    split <;> exact ⟨rfl, rfl⟩
  | _ => exact ⟨rfl, rfl⟩

theorem run_defaults (c : AuthCache) (events : List CacheEvent) :
    (c.run events).defaultIdle = c.defaultIdle ∧ (c.run events).defaultLive = c.defaultLive := by
  induction events generalizing c with
  | nil => exact ⟨rfl, rfl⟩
  | cons event rest ih =>
    obtain ⟨idle, live⟩ := step_defaults c event
    rw [← idle, ← live]
    exact ih (c.step event)

theorem remember_congr {c d : AuthCache} (idle : d.defaultIdle = c.defaultIdle)
    (live : d.defaultLive = c.defaultLive) (stage key : String) :
    d.remember stage key = c.remember stage key := by
  funext memory event
  cases event <;> simp only [remember, idle, live]

theorem Mirrors.store {time : Nat} {c : AuthCache} {stage key : String}
    {memory : Option CacheEntry} (mirrors : Mirrors time (c.find? stage key) memory) (s k : String)
    (value : CachedAuth) (idle live : Option Nat) :
    Mirrors time ((c.store time s k value idle live).find? stage key)
      (c.remember stage key memory (.put time s k value idle live)) := by
  by_cases own : (s, k) = (stage, key)
  · obtain ⟨rfl, rfl⟩ := Prod.mk.inj own
    rw [find?_store_self, remember, if_pos rfl]
    exact fun now _ => rfl
  · rw [find?_store_other c time value idle live own, remember, if_neg own]
    exact mirrors

theorem step_mirrors {time : Nat} {c : AuthCache} (keyed : c.Keyed) {stage key : String}
    {memory : Option CacheEntry} (mirrors : Mirrors time (c.find? stage key) memory)
    {event : CacheEvent} (reading : ∀ now ∈ event.reading?, now = time) :
    Mirrors time ((c.step event).find? stage key) (c.remember stage key memory event) := by
  cases event with
  | get now s k =>
    obtain rfl : now = time := reading now rfl
    by_cases own : (s, k) = (stage, key)
    · obtain ⟨rfl, rfl⟩ := Prod.mk.inj own
      rw [remember, if_pos rfl]
      exact mirrors.get
    · rw [remember, if_neg own, step, find?_get_other c now own]
      exact mirrors
  | put now s k value idle live =>
    obtain rfl : now = time := reading now rfl
    rw [step, put_eq]
    split
    · have swept := mirrors.sweep
      rw [← keyed.find?_sweep] at swept
      exact swept.store s k value idle live
    · exact mirrors.store s k value idle live
  | remove s k =>
    by_cases own : (s, k) = (stage, key)
    · obtain ⟨rfl, rfl⟩ := Prod.mk.inj own
      rw [remember, if_pos rfl, step, find?_remove_self]
      exact fun now _ => rfl
    · rw [remember, if_neg own, step, find?_remove_other c own]
      exact mirrors
  | removeStage s =>
    by_cases own : s = stage
    · subst own
      rw [remember, if_pos rfl, step, find?_removeStage_self]
      exact fun now _ => rfl
    · rw [remember, if_neg own, step, find?_removeStage_other c own]
      exact mirrors
  | clear => exact fun now _ => rfl
  | evictExpired now =>
    obtain rfl : now = time := reading now rfl
    have swept := mirrors.sweep
    rw [← keyed.find?_sweep] at swept
    exact swept
  | size => exact mirrors

theorem run_mirrors {c : AuthCache} (keyed : c.Keyed) {stage key : String}
    {memory : Option CacheEntry} {start now : Nat}
    (mirrors : Mirrors start (c.find? stage key) memory) {events : List CacheEvent}
    (between : CacheEvent.Between start events now) :
    Mirrors now ((c.run events).find? stage key) (c.remembered stage key memory events) := by
  induction events generalizing c start memory with
  | nil =>
    have order : start ≤ now := by
      simpa [CacheEvent.Between] using between
    exact mirrors.later order
  | cons event rest ih =>
    obtain ⟨time, order, reading, later⟩ := between.cons
    have next := ih (keyed.step event) (step_mirrors keyed (mirrors.later order) reading) later
    obtain ⟨idle, live⟩ := step_defaults c event
    rw [remembered, remember_congr idle live] at next
    exact next

/-- A read finds what is remembered, if that has not expired. -/
theorem get_remembered {c : AuthCache} (keyed : c.Keyed) {stage key : String}
    {memory : Option CacheEntry} {start now : Nat}
    (mirrors : Mirrors start (c.find? stage key) memory) {events : List CacheEvent}
    (between : CacheEvent.Between start events now) :
    ((c.run events).get now stage key).1 =
      ((c.remembered stage key memory events).filter (CacheEntry.validAt now)).map
        CacheEntry.value := by
  rw [get_eq, run_mirrors keyed mirrors between now (Nat.le_refl now)]

/-- The time of the last read of the pair that found a value, or else of the put before it. -/
def lastUse (c : AuthCache) (stage key : String) (put : Nat) (events : List CacheEvent) : Nat :=
  ((c.trace events).filterMap (CacheEvent.hit? stage key)).getLast?.getD put

theorem lastUse_cons (c : AuthCache) (stage key : String) (put : Nat) (event : CacheEvent)
    (rest : List CacheEvent) : c.lastUse stage key put (event :: rest) =
      (c.step event).lastUse stage key
        ((CacheEvent.hit? stage key (event, c.answer event)).getD put) rest := by
  unfold lastUse
  rw [trace]
  cases found : CacheEvent.hit? stage key (event, c.answer event) with
  | none => rw [List.filterMap_cons_none found, Option.getD_none]
  | some now =>
    rw [List.filterMap_cons_some found, List.getLast?_cons, Option.getD_some, Option.getD_some]

def Untouched (stage key : String) (events : List CacheEvent) : Prop :=
  ∀ event ∈ events, event.puts stage key = false ∧ event.removes stage key = false

/-- What neither puts nor removes is a read of the pair, or of no account to it. -/
theorem get_or_remembered (c : AuthCache) {stage key : String} {event : CacheEvent}
    (kept : event.puts stage key = false) (stays : event.removes stage key = false) :
    (∃ now, event = .get now stage key) ∨
      (∀ memory, c.remember stage key memory event = memory) ∧
      ∀ answer, CacheEvent.hit? stage key (event, answer) = none := by
  cases event with
  | get now s k =>
    by_cases own : (s, k) = (stage, key)
    · obtain ⟨rfl, rfl⟩ := Prod.mk.inj own
      exact .inl ⟨now, rfl⟩
    · refine .inr ⟨fun memory => if_neg own, ?_⟩
      rintro (⟨_ | value⟩ | _ | _)
      case found.some => exact if_neg own
      all_goals rfl
  | put now s k value idle live =>
    have other : (s, k) ≠ (stage, key) := by
      simpa [CacheEvent.puts] using kept
    exact .inr ⟨fun memory => if_neg other, fun answer => rfl⟩
  | remove s k =>
    have other : (s, k) ≠ (stage, key) := by
      simpa [CacheEvent.removes] using stays
    exact .inr ⟨fun memory => if_neg other, fun answer => rfl⟩
  | removeStage s =>
    have other : s ≠ stage := by
      simpa [CacheEvent.removes] using stays
    exact .inr ⟨fun memory => if_neg other, fun answer => rfl⟩
  | clear => contradiction
  | evictExpired | size => exact .inr ⟨fun memory => rfl, fun answer => rfl⟩

theorem remember_removed (c : AuthCache) {stage key : String} (memory : Option CacheEntry)
    {event : CacheEvent} (removed : event.removes stage key = true) :
    c.remember stage key memory event = none := by
  cases event with
  | remove s k =>
    have own : (s, k) = (stage, key) := by
      simpa [CacheEvent.removes] using removed
    rw [remember, if_pos own]
  | removeStage s =>
    have own : s = stage := by
      simpa [CacheEvent.removes] using removed
    rw [remember, if_pos own]
  | clear => rfl
  | _ => contradiction

theorem remember_none (c : AuthCache) {stage key : String} {event : CacheEvent}
    (kept : event.puts stage key = false) : c.remember stage key none event = none := by
  cases removed : event.removes stage key with
  | true => exact remember_removed c none removed
  | false =>
    rcases c.get_or_remembered kept removed with ⟨now, rfl⟩ | ⟨same, _⟩
    · simp [remember]
    · exact same none

theorem remember_other (c : AuthCache) {stage key : String} (memory : Option CacheEntry)
    {event : CacheEvent} (other : event.concerns stage key = false) :
    c.remember stage key memory event = memory := by
  simp only [CacheEvent.concerns, Bool.or_eq_false_iff] at other
  obtain ⟨⟨kept, stays⟩, unread⟩ := other
  rcases c.get_or_remembered kept stays with ⟨now, rfl⟩ | ⟨same, _⟩
  · simp [CacheEvent.gets] at unread
  · exact same memory

theorem remember_untouched {time : Nat} {c : AuthCache} {stage key : String} {e : CacheEntry}
    (mirrors : Mirrors time (c.find? stage key) (some e)) {event : CacheEvent}
    (reading : ∀ now ∈ event.reading?, now = time) (kept : event.puts stage key = false)
    (stays : event.removes stage key = false) :
    c.remember stage key (some e) event = some { e with
      lastAccess := (CacheEvent.hit? stage key (event, c.answer event)).getD e.lastAccess } := by
  rcases c.get_or_remembered kept stays with ⟨now, rfl⟩ | ⟨same, unseen⟩
  · obtain rfl : now = time := reading now rfl
    have found := get_eq c now stage key
    rw [mirrors now (Nat.le_refl now)] at found
    rw [remember, if_pos rfl, answer, found, Option.map_some]
    cases expired : e.isExpired now <;>
      simp [CacheEvent.hit?, Option.filter, CacheEntry.validAt, CacheEntry.renewed, expired]
  · rw [same, unseen, Option.getD_none]

theorem remembered_untouched {c : AuthCache} (keyed : c.Keyed) {stage key : String} {e : CacheEntry}
    {start now : Nat} (mirrors : Mirrors start (c.find? stage key) (some e))
    {events : List CacheEvent} (between : CacheEvent.Between start events now)
    (untouched : Untouched stage key events) : c.remembered stage key (some e) events =
      some { e with lastAccess := c.lastUse stage key e.lastAccess events } := by
  induction events generalizing c start e with
  | nil => rfl
  | cons event rest ih =>
    obtain ⟨time, order, reading, later⟩ := between.cons
    obtain ⟨⟨kept, stays⟩, others⟩ := List.forall_mem_cons.mp untouched
    have mirrored := mirrors.later order
    have first := remember_untouched mirrored reading kept stays
    have next := step_mirrors keyed mirrored reading
    rw [first] at next
    obtain ⟨idle, live⟩ := step_defaults c event
    have rest := ih (keyed.step event) next later others
    rw [remembered, remember_congr idle live] at rest
    rw [remembered, List.foldl_cons, first, lastUse_cons]
    exact rest

/-- What is remembered was put, and then left alone. -/
theorem remembered_put {c : AuthCache} {stage key : String} {events : List CacheEvent}
    (recalled : c.remembered stage key none events ≠ none) :
    ∃ before put value idle live after,
      events = before ++ .put put stage key value idle live :: after ∧
        Untouched stage key after := by
  induction events using List.reverseRecOn with
  | nil => contradiction
  | append_singleton init event ih =>
    rw [remembered, List.foldl_append, List.foldl_cons, List.foldl_nil] at recalled
    cases new : event.puts stage key with
    | true =>
      cases event with
      | put now s k value idle live =>
        obtain ⟨rfl, rfl⟩ : s = stage ∧ k = key := by
          simpa [CacheEvent.puts] using new
        exact ⟨init, now, value, idle, live, [], rfl, by simp [Untouched]⟩
      | _ => contradiction
    | false =>
      have stays : event.removes stage key = false := by
        apply Bool.eq_false_iff.mpr
        intro removed
        exact recalled (remember_removed c _ removed)
      have earlier : c.remembered stage key none init ≠ none := by
        intro nothing
        unfold remembered at nothing
        rw [nothing, remember_none c new] at recalled
        contradiction
      obtain ⟨before, put, value, idle, live, after, rfl, untouched⟩ := ih earlier
      refine ⟨before, put, value, idle, live, after ++ [event], by simp, ?_⟩
      intro other member
      rcases List.mem_append.mp member with old | last
      · exact untouched other old
      · obtain rfl := List.mem_singleton.mp last
        exact ⟨new, stays⟩

theorem remembered_filter_concerns (c : AuthCache) (stage key : String) (memory : Option CacheEntry)
    (events : List CacheEvent) :
    c.remembered stage key memory (events.filter (CacheEvent.concerns stage key)) =
      c.remembered stage key memory events := by
  induction events generalizing memory with
  | nil => rfl
  | cons event rest ih =>
    cases concerned : event.concerns stage key with
    | true =>
      rw [List.filter_cons_of_pos concerned]
      exact ih _
    | false =>
      rw [List.filter_cons_of_neg (Bool.eq_false_iff.mp concerned), ih]
      unfold remembered
      rw [List.foldl_cons, remember_other c memory concerned]

/-- Two states that are remembered alike answer all later reads alike. -/
theorem get_congr {c d : AuthCache} (keyed : c.Keyed) (keyed' : d.Keyed)
    (idle : d.defaultIdle = c.defaultIdle) (live : d.defaultLive = c.defaultLive)
    {stage key : String} {memory : Option CacheEntry} {start now : Nat}
    (mirrors : Mirrors start (c.find? stage key) memory)
    (mirrors' : Mirrors start (d.find? stage key) memory) {events : List CacheEvent}
    (between : CacheEvent.Between start events now) :
    ((d.run events).get now stage key).1 = ((c.run events).get now stage key).1 := by
  rw [get_remembered keyed mirrors between, get_remembered keyed' mirrors' between, remembered,
    remembered, remember_congr idle live]

end AuthCache
end MapGate
