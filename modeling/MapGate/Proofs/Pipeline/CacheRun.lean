import MapGate.Pipeline.AuthCache

/-!
Runs of an authentication cache, and what one operation does to the entry of one pair of stage and
key. A cache has at most one entry for each pair.
-/
namespace MapGate

/-- A call of an authentication cache, with the time that its clock shows. -/
inductive CacheEvent where
  | get (now : Nat) (stage key : String)
  | put (now : Nat) (stage key : String) (value : CachedAuth) (idle live : Option Nat)
  | remove (stage key : String)
  | removeStage (stage : String)
  | clear
  | evictExpired (now : Nat)
  | size

inductive CacheAnswer where
  | found (value : Option CachedAuth)
  | number (n : Nat)
  | done

namespace CacheEvent

def reading? : CacheEvent → Option Nat
  | get now _ _ => some now
  | put now _ _ _ _ _ => some now
  | evictExpired now => some now
  | _ => none

/-- The clock never goes back from one event to the next. -/
def InTime (events : List CacheEvent) : Prop := (events.filterMap reading?).Pairwise (· ≤ ·)

def puts (stage key : String) : CacheEvent → Bool
  | put _ s k _ _ _ => s == stage && k == key
  | _ => false

def removes (stage key : String) : CacheEvent → Bool
  | remove s k => s == stage && k == key
  | removeStage s => s == stage
  | clear => true
  | _ => false

def gets (stage key : String) : CacheEvent → Bool
  | get _ s k => s == stage && k == key
  | _ => false

end CacheEvent

def CacheEntry.pair (e : CacheEntry) : String × String := (e.stage, e.key)

theorem CacheEntry.isFor_iff {e : CacheEntry} {stage key : String} :
    e.isFor stage key = true ↔ e.pair = (stage, key) := by
  simp [isFor, pair]

theorem CacheEntry.isExpired_later {e : CacheEntry} {now later : Nat}
    (expired : e.isExpired now = true) (order : now ≤ later) : e.isExpired later = true := by
  simp only [isExpired, Bool.or_eq_true, decide_eq_true_eq] at expired ⊢
  omega

def CacheEntry.validAt (now : Nat) (e : CacheEntry) : Bool := !e.isExpired now

theorem filter_validAt_later {now later : Nat} (order : now ≤ later) (found : Option CacheEntry) :
    (found.filter (CacheEntry.validAt now)).filter (CacheEntry.validAt later) =
      found.filter (CacheEntry.validAt later) := by
  cases found with
  | none => rfl
  | some e =>
    cases expired : e.isExpired now with
    | false => simp [Option.filter, CacheEntry.validAt, expired]
    | true =>
      have still := CacheEntry.isExpired_later expired order
      simp [Option.filter, CacheEntry.validAt, expired, still]

namespace AuthCache

def answer (c : AuthCache) : CacheEvent → CacheAnswer
  | .get now stage key => .found (c.get now stage key).1
  | .evictExpired now => .number (c.evictExpired now).1
  | .size => .number c.size
  | .put .. | .remove .. | .removeStage _ | .clear => .done

def step (c : AuthCache) : CacheEvent → AuthCache
  | .get now stage key => (c.get now stage key).2
  | .put now stage key value idle live => c.put now stage key value idle live
  | .remove stage key => c.remove stage key
  | .removeStage stage => c.removeStage stage
  | .clear => c.clear
  | .evictExpired now => (c.evictExpired now).2
  | .size => c

def run (c : AuthCache) (events : List CacheEvent) : AuthCache := events.foldl step c

def trace (c : AuthCache) : List CacheEvent → List (CacheEvent × CacheAnswer)
  | [] => []
  | event :: rest => (event, c.answer event) :: trace (c.step event) rest

theorem run_append (c : AuthCache) (before after : List CacheEvent) :
    c.run (before ++ after) = (c.run before).run after :=
  List.foldl_append

def touch (c : AuthCache) (now : Nat) (stage key : String) : AuthCache :=
  { c with entries := c.entries.map fun e =>
      if e.isFor stage key then { e with lastAccess := now } else e }

/-- Puts a value in without a sweep. -/
def store (c : AuthCache) (now : Nat) (stage key : String) (value : CachedAuth)
    (idle live : Option Nat) : AuthCache :=
  { (c.remove stage key) with
    entries := (c.remove stage key).entries ++
      [⟨stage, key, value, now, now, idle.getD c.defaultIdle, live.getD c.defaultLive⟩] }

theorem put_eq (c : AuthCache) (now : Nat) (stage key : String) (value : CachedAuth)
    (idle live : Option Nat) : c.put now stage key value idle live =
      (if c.defaultIdle ≤ now - c.lastSweep then c.sweep now else c).store now stage key value
        idle live := by
  unfold put store
  split <;> rfl

/-- What a read comes to, and in which state it leaves the cache. -/
inductive Reads (c : AuthCache) (now : Nat) (stage key : String) :
    Option CachedAuth → AuthCache → Prop where
  | missing (absent : c.find? stage key = none) : Reads c now stage key none c
  | expired {e : CacheEntry} (found : c.find? stage key = some e)
      (expired : e.isExpired now = true) : Reads c now stage key none (c.remove stage key)
  | hit {e : CacheEntry} (found : c.find? stage key = some e)
      (valid : e.isExpired now = false) :
      Reads c now stage key (some e.value) (c.touch now stage key)

theorem get_reads (c : AuthCache) (now : Nat) (stage key : String) :
    Reads c now stage key (c.get now stage key).1 (c.get now stage key).2 := by
  unfold get
  split
  case h_1 absent => exact .missing absent
  case h_2 e found =>
    split
    case isTrue expired => exact .expired found expired
    case isFalse valid => exact .hit found (Bool.eq_false_iff.mpr valid)

/-- A read that finds no valid entry finds none, and else its value. -/
theorem get_eq (c : AuthCache) (now : Nat) (stage key : String) :
    (c.get now stage key).1 =
      ((c.find? stage key).filter (CacheEntry.validAt now)).map CacheEntry.value := by
  have reads := get_reads c now stage key
  generalize (c.get now stage key).1 = found, (c.get now stage key).2 = after at reads ⊢
  cases reads with
  | missing absent => simp [absent]
  | expired found expired => simp [found, Option.filter, CacheEntry.validAt, expired]
  | hit found valid => simp [found, Option.filter, CacheEntry.validAt, valid]

theorem find?_filter_of_once {entries : List CacheEntry}
    (once : (entries.map CacheEntry.pair).Nodup) (keep : CacheEntry → Bool) (stage key : String) :
    ((entries.filter keep).find? fun e => e.isFor stage key) =
      (entries.find? fun e => e.isFor stage key).filter keep := by
  induction entries with
  | nil => rfl
  | cons e rest ih =>
    obtain ⟨alone, others⟩ := List.nodup_cons.mp once
    have later := ih others
    by_cases here : e.isFor stage key = true
    · -- no other entry is for this pair
      have absent : (rest.find? fun e => e.isFor stage key) = none := by
        rw [List.find?_eq_none]
        intro other member same
        have pair := (CacheEntry.isFor_iff.mp same).trans (CacheEntry.isFor_iff.mp here).symm
        exact alone (List.mem_map.mpr ⟨other, member, pair⟩)
      rw [absent] at later
      cases kept : keep e with
      | true => simp [here, kept, Option.filter]
      | false => simpa [here, kept, Option.filter] using later
    · have skip (tail : List CacheEntry) : ((e :: tail).find? fun e => e.isFor stage key) =
          tail.find? fun e => e.isFor stage key := by simp [here]
      rw [skip, ← later, List.filter_cons]
      split
      · exact skip _
      · rfl

def Keyed (c : AuthCache) : Prop := (c.entries.map CacheEntry.pair).Nodup

namespace Keyed

variable {c : AuthCache}

theorem sublist (keyed : c.Keyed) {d : AuthCache} (fewer : d.entries.Sublist c.entries) : d.Keyed :=
  List.Pairwise.sublist (fewer.map CacheEntry.pair) keyed

theorem touch (keyed : c.Keyed) (now : Nat) (stage key : String) :
    (c.touch now stage key).Keyed := by
  have pairs : (c.touch now stage key).entries.map CacheEntry.pair =
      c.entries.map CacheEntry.pair := by
    unfold AuthCache.touch
    rw [List.map_map]
    apply List.map_congr_left
    intro e _
    rw [Function.comp]
    split <;> rfl
  unfold Keyed
  rw [pairs]
  exact keyed

theorem store (keyed : c.Keyed) (now : Nat) (stage key : String) (value : CachedAuth)
    (idle live : Option Nat) : (c.store now stage key value idle live).Keyed := by
  have rest : (c.remove stage key).Keyed := keyed.sublist List.filter_sublist
  unfold Keyed AuthCache.store
  rw [List.map_append, List.nodup_append]
  refine ⟨rest, by simp, ?_⟩
  intro pair listed other new
  obtain ⟨e, member, rfl⟩ := List.mem_map.mp listed
  rw [List.map_singleton, List.mem_singleton] at new
  rintro rfl
  have out := (List.mem_filter.mp member).2
  rw [CacheEntry.isFor_iff.mpr new] at out
  contradiction

theorem step (keyed : c.Keyed) (event : CacheEvent) : (c.step event).Keyed := by
  cases event with
  | get now stage key =>
    have reads := get_reads c now stage key
    dsimp only [AuthCache.step]
    generalize (c.get now stage key).1 = found, (c.get now stage key).2 = after at reads ⊢
    cases reads with
    | missing => exact keyed
    | expired => exact keyed.sublist List.filter_sublist
    | hit => exact keyed.touch now stage key
  | put now stage key value idle live =>
    dsimp only [AuthCache.step]
    rw [put_eq]
    split
    · exact (keyed.sublist List.filter_sublist).store now stage key value idle live
    · exact keyed.store now stage key value idle live
  | remove stage key => exact keyed.sublist List.filter_sublist
  | removeStage stage => exact keyed.sublist List.filter_sublist
  | clear => exact List.nodup_nil
  | evictExpired now => exact keyed.sublist List.filter_sublist
  | size => exact keyed

theorem run (keyed : c.Keyed) (events : List CacheEvent) : (c.run events).Keyed := by
  induction events generalizing c with
  | nil => exact keyed
  | cons event rest ih => exact ih (keyed.step event)

theorem find?_sweep (keyed : c.Keyed) (now : Nat) (stage key : String) :
    (c.sweep now).find? stage key = (c.find? stage key).filter (CacheEntry.validAt now) :=
  find?_filter_of_once keyed (CacheEntry.validAt now) stage key

end Keyed

theorem find?_remove_self (c : AuthCache) (stage key : String) :
    (c.remove stage key).find? stage key = none := by
  unfold find? remove
  rw [List.find?_eq_none]
  intro e member same
  have out := (List.mem_filter.mp member).2
  rw [same] at out
  contradiction

theorem find?_remove_other (c : AuthCache) {s k stage key : String}
    (other : (s, k) ≠ (stage, key)) : (c.remove s k).find? stage key = c.find? stage key := by
  unfold find? remove
  rw [List.find?_filter]
  congr 1
  funext e
  by_cases here : e.isFor stage key = true
  · have elsewhere : e.isFor s k = false := by
      apply Bool.eq_false_iff.mpr
      intro same
      exact other ((CacheEntry.isFor_iff.mp same).symm.trans (CacheEntry.isFor_iff.mp here))
    simp [here, elsewhere]
  · simp [here]

theorem find?_removeStage_self (c : AuthCache) (stage key : String) :
    (c.removeStage stage).find? stage key = none := by
  unfold find? removeStage
  rw [List.find?_eq_none]
  intro e member same
  have out := (List.mem_filter.mp member).2
  simp only [CacheEntry.isFor, Bool.and_eq_true, beq_iff_eq] at same
  simp [same.1] at out

theorem find?_removeStage_other (c : AuthCache) {s stage : String} (other : s ≠ stage)
    (key : String) : (c.removeStage s).find? stage key = c.find? stage key := by
  unfold find? removeStage
  rw [List.find?_filter]
  congr 1
  funext e
  by_cases here : e.isFor stage key = true
  · have pair := CacheEntry.isFor_iff.mp here
    have elsewhere : e.stage ≠ s := fun same => other (same.symm.trans (congrArg Prod.fst pair))
    simp [here, elsewhere]
  · simp [here]

theorem find?_touch (c : AuthCache) (now : Nat) (s k stage key : String) :
    (c.touch now s k).find? stage key = (c.find? stage key).map fun e =>
      if e.isFor s k then { e with lastAccess := now } else e := by
  unfold find? touch
  rw [List.find?_map]
  congr 2
  funext e
  rw [Function.comp]
  split <;> rfl

theorem find?_pair {c : AuthCache} {stage key : String} {e : CacheEntry}
    (found : c.find? stage key = some e) : e.pair = (stage, key) := by
  have here := List.find?_some found
  exact CacheEntry.isFor_iff.mp here

theorem find?_touch_self {c : AuthCache} {stage key : String} {e : CacheEntry}
    (found : c.find? stage key = some e) (now : Nat) :
    (c.touch now stage key).find? stage key = some { e with lastAccess := now } := by
  rw [find?_touch, found, Option.map_some, if_pos (CacheEntry.isFor_iff.mpr (find?_pair found))]

theorem find?_touch_other (c : AuthCache) {s k stage key : String} (now : Nat)
    (other : (s, k) ≠ (stage, key)) : (c.touch now s k).find? stage key = c.find? stage key := by
  rw [find?_touch]
  cases found : c.find? stage key with
  | none => rfl
  | some e =>
    rw [Option.map_some, if_neg]
    intro here
    exact other ((CacheEntry.isFor_iff.mp here).symm.trans (find?_pair found))

theorem find?_store_self (c : AuthCache) (now : Nat) (stage key : String) (value : CachedAuth)
    (idle live : Option Nat) : (c.store now stage key value idle live).find? stage key =
      some ⟨stage, key, value, now, now, idle.getD c.defaultIdle, live.getD c.defaultLive⟩ := by
  have absent := find?_remove_self c stage key
  unfold find? at absent ⊢
  rw [store, List.find?_append, absent]
  simp [CacheEntry.isFor]

theorem find?_store_other (c : AuthCache) {s k stage key : String} (now : Nat) (value : CachedAuth)
    (idle live : Option Nat) (other : (s, k) ≠ (stage, key)) :
    (c.store now s k value idle live).find? stage key = c.find? stage key := by
  have kept := find?_remove_other c other
  have elsewhere : (s == stage && k == key) = false := by
    simpa using other
  unfold find? at kept ⊢
  rw [store, List.find?_append, kept]
  simp [CacheEntry.isFor, elsewhere]

end AuthCache
end MapGate
