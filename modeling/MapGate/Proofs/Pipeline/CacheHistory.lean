import Mathlib.Data.Finset.Card
import MapGate.Proofs.Pipeline.CacheMemory

/-!
What a cache answers, told from the history of its calls. A read finds the value of the last put
for its pair as long as no removal came since and neither timeout has run out; the idle timeout
starts anew with every read that finds it. Sweeps and the removal of what a read found expired are
not seen by any later read, and calls for one pair not by reads of another.
-/
namespace MapGate
namespace AuthCache

/-- What the reads of a cache find, and what they do not notice. -/
structure TellsHistory (c : AuthCache) : Prop where
  get_iff : ∀ events now stage key value,
    CacheEvent.InTime (events ++ [.get now stage key]) →
      (((c.run events).get now stage key).1 = some value ↔
        ∃ before put idle live after,
          events = before ++ .put put stage key value idle live :: after ∧
          Untouched stage key after ∧
          now - put < live.getD c.defaultLive ∧
          now - ((c.run before).put put stage key value idle live).lastUse stage key put after <
            idle.getD c.defaultIdle)
  others_unnoticed : ∀ events now stage key,
    CacheEvent.InTime (events ++ [.get now stage key]) →
      ((c.run (events.filter (CacheEvent.concerns stage key))).get now stage key).1 =
        ((c.run events).get now stage key).1
  evict_unnoticed : ∀ before time after now stage key,
    CacheEvent.InTime (before ++ .evictExpired time :: after ++ [.get now stage key]) →
      ((((c.run before).evictExpired time).2.run after).get now stage key).1 =
        (((c.run before).run after).get now stage key).1
  put_sweep_unnoticed : ∀ before time s k value idle live after now stage key,
    CacheEvent.InTime (before ++ .put time s k value idle live :: after ++ [.get now stage key]) →
      ((((c.run before).put time s k value idle live).run after).get now stage key).1 =
        ((((c.run before).store time s k value idle live).run after).get now stage key).1
  failed_get_unnoticed : ∀ before time s k after now stage key,
    CacheEvent.InTime (before ++ .get time s k :: after ++ [.get now stage key]) →
      ((c.run before).get time s k).1 = none →
      ((((c.run before).get time s k).2.run after).get now stage key).1 =
        (((c.run before).run after).get now stage key).1
  size_evicted : ∀ events now,
    let evicted := ((c.run events).evictExpired now).2
    ∃ pairs : Finset (String × String), pairs.card = evicted.size ∧
      ∀ stage key, (stage, key) ∈ pairs ↔ (evicted.get now stage key).1.isSome

section Empty

variable {c : AuthCache} (empty : c.entries = [])

include empty

theorem keyed_of_empty : c.Keyed := by
  simp [Keyed, empty]

theorem mirrors_of_empty (stage key : String) : Mirrors 0 (c.find? stage key) none := by
  have absent : c.find? stage key = none := by
    simp [find?, empty]
  rw [absent]
  exact fun now _ => rfl

theorem reached_mirrors {before : List CacheEvent} {time : Nat}
    (between : CacheEvent.Between 0 before time) (stage key : String) :
    Mirrors time ((c.run before).find? stage key) (c.remembered stage key none before) :=
  run_mirrors (keyed_of_empty empty) (mirrors_of_empty empty stage key) between

theorem reached_step {before : List CacheEvent} {time : Nat}
    (between : CacheEvent.Between 0 before time) {event : CacheEvent}
    (read : event.reading? = some time) (stage key : String) :
    Mirrors time (((c.run before).step event).find? stage key)
      (c.remember stage key (c.remembered stage key none before) event) := by
  have reading : ∀ now ∈ event.reading?, now = time := by
    intro now member
    exact Option.some.inj (member.symm.trans read)
  obtain ⟨idle, live⟩ := run_defaults c before
  rw [← remember_congr idle live]
  exact step_mirrors ((keyed_of_empty empty).run before) (reached_mirrors empty between stage key)
    reading

theorem remembered_after_put {before after : List CacheEvent} {put now : Nat} {stage key : String}
    {value : CachedAuth} {idle live : Option Nat} (inTime : CacheEvent.InTime
      (before ++ .put put stage key value idle live :: after ++ [.get now stage key]))
    (untouched : Untouched stage key after) :
    c.remembered stage key none (before ++ .put put stage key value idle live :: after) =
      some ⟨stage, key, value, put,
        ((c.run before).put put stage key value idle live).lastUse stage key put after,
        idle.getD c.defaultIdle, live.getD c.defaultLive⟩ := by
  obtain ⟨until_put, since_put⟩ := inTime.around rfl
  let event : CacheEvent := .put put stage key value idle live
  have read : event.reading? = some put := rfl
  have stored := reached_step empty until_put read stage key
  rw [remember, if_pos rfl] at stored
  have keyed := ((keyed_of_empty empty).run before).step event
  have kept := remembered_untouched keyed stored since_put untouched
  obtain ⟨idles, lives⟩ := run_defaults c before
  obtain ⟨idles', lives'⟩ := step_defaults (c.run before) event
  rw [remembered, remember_congr (idles'.trans idles) (lives'.trans lives)] at kept
  rw [remembered, List.foldl_append, List.foldl_cons, remember, if_pos rfl]
  exact kept

theorem get_iff_put {events : List CacheEvent} {now : Nat} {stage key : String}
    {value : CachedAuth} (inTime : CacheEvent.InTime (events ++ [.get now stage key])) :
    ((c.run events).get now stage key).1 = some value ↔
      ∃ before put idle live after,
        events = before ++ .put put stage key value idle live :: after ∧
        Untouched stage key after ∧
        now - put < live.getD c.defaultLive ∧
        now - ((c.run before).put put stage key value idle live).lastUse stage key put after <
          idle.getD c.defaultIdle := by
  rw [get_remembered (keyed_of_empty empty) (mirrors_of_empty empty stage key) inTime.between]
  constructor
  · intro found
    have recalled : c.remembered stage key none events ≠ none := by
      intro nothing
      rw [nothing] at found
      contradiction
    obtain ⟨before, put, last, idle, live, after, rfl, untouched⟩ := remembered_put recalled
    rw [remembered_after_put empty inTime untouched] at found
    obtain ⟨e, kept, rfl⟩ := Option.map_eq_some_iff.mp found
    obtain ⟨same, valid⟩ := Option.filter_eq_some_iff.mp kept
    obtain rfl := Option.some.inj same
    obtain ⟨alive, used⟩ := CacheEntry.validAt_iff.mp valid
    exact ⟨before, put, idle, live, after, rfl, untouched, alive, used⟩
  · rintro ⟨before, put, idle, live, after, rfl, untouched, alive, used⟩
    rw [remembered_after_put empty inTime untouched]
    rw [Option.filter_some, if_pos (CacheEntry.validAt_iff.mpr ⟨alive, used⟩), Option.map_some]

theorem get_filter_concerns {events : List CacheEvent} {now : Nat} {stage key : String}
    (inTime : CacheEvent.InTime (events ++ [.get now stage key])) :
    ((c.run (events.filter (CacheEvent.concerns stage key))).get now stage key).1 =
      ((c.run events).get now stage key).1 := by
  have keyed := keyed_of_empty empty
  have mirrors := mirrors_of_empty empty stage key
  have fewer : CacheEvent.Between 0 (events.filter (CacheEvent.concerns stage key)) now := by
    have sublist := List.filter_sublist (p := CacheEvent.concerns stage key) (l := events)
    have times := (sublist.filterMap CacheEvent.reading?).append_right [now]
    exact List.Pairwise.sublist (times.cons_cons 0) inTime.between
  rw [get_remembered keyed mirrors fewer, get_remembered keyed mirrors inTime.between,
    remembered_filter_concerns]

theorem get_evictExpired {before after : List CacheEvent} {time now : Nat} {stage key : String}
    (inTime : CacheEvent.InTime
      (before ++ .evictExpired time :: after ++ [.get now stage key])) :
    ((((c.run before).evictExpired time).2.run after).get now stage key).1 =
      (((c.run before).run after).get now stage key).1 := by
  obtain ⟨until_then, since_then⟩ := inTime.around rfl
  have keyed := (keyed_of_empty empty).run before
  have mirrors := reached_mirrors empty until_then stage key
  have swept := mirrors.sweep
  rw [← keyed.find?_sweep] at swept
  have fewer : ((c.run before).sweep time).Keyed := keyed.sublist List.filter_sublist
  exact get_congr keyed fewer rfl rfl mirrors swept since_then

theorem get_put_sweep {before after : List CacheEvent} {time now : Nat} {s k stage key : String}
    {value : CachedAuth} {idle live : Option Nat} (inTime : CacheEvent.InTime
      (before ++ .put time s k value idle live :: after ++ [.get now stage key])) :
    ((((c.run before).put time s k value idle live).run after).get now stage key).1 =
      ((((c.run before).store time s k value idle live).run after).get now stage key).1 := by
  obtain ⟨until_then, since_then⟩ := inTime.around rfl
  have keyed := (keyed_of_empty empty).run before
  have mirrors := reached_mirrors empty until_then stage key
  have stored := mirrors.store s k value idle live
  obtain ⟨idles, lives⟩ := run_defaults c before
  rw [remember_congr idles lives] at stored
  let event : CacheEvent := .put time s k value idle live
  obtain ⟨idles', lives'⟩ := step_defaults (c.run before) event
  exact get_congr (keyed.store time s k value idle live) (keyed.step event) idles' lives' stored
    (reached_step empty until_then rfl stage key) since_then

theorem get_failed {before after : List CacheEvent} {time now : Nat} {s k stage key : String}
    (inTime : CacheEvent.InTime (before ++ .get time s k :: after ++ [.get now stage key]))
    (failed : ((c.run before).get time s k).1 = none) :
    ((((c.run before).get time s k).2.run after).get now stage key).1 =
      (((c.run before).run after).get now stage key).1 := by
  obtain ⟨until_then, since_then⟩ := inTime.around rfl
  have keyed := (keyed_of_empty empty).run before
  have mirrors := reached_mirrors empty until_then stage key
  let event : CacheEvent := .get time s k
  have now_read : event.reading? = some time := rfl
  have read := reached_step empty until_then now_read stage key
  -- nothing was renewed, as all that is remembered of the pair has expired
  have unchanged : c.remember stage key (c.remembered stage key none before) event =
      c.remembered stage key none before := by
    by_cases own : (s, k) = (stage, key)
    · obtain ⟨rfl, rfl⟩ := Prod.mk.inj own
      rw [get_eq, Option.map_eq_none_iff, mirrors time (Nat.le_refl time)] at failed
      rw [remember, if_pos rfl, renewed_of_lost failed]
    · rw [remember, if_neg own]
  rw [unchanged] at read
  obtain ⟨idles, lives⟩ := step_defaults (c.run before) event
  exact get_congr keyed (keyed.step event) idles lives mirrors read since_then

end Empty

/-- After a sweep the entries are those that a read would find. -/
theorem Keyed.size_evicted {c : AuthCache} (keyed : c.Keyed) (now : Nat) :
    ∃ pairs : Finset (String × String), pairs.card = (c.evictExpired now).2.size ∧
      ∀ stage key, (stage, key) ∈ pairs ↔
        ((c.evictExpired now).2.get now stage key).1.isSome := by
  let swept := (c.evictExpired now).2
  have once : (swept.entries.map CacheEntry.pair).Nodup := keyed.step (.evictExpired now)
  refine ⟨(swept.entries.map CacheEntry.pair).toFinset, ?_, ?_⟩
  · rw [List.toFinset_card_of_nodup once, List.length_map]
    rfl
  · intro stage key
    have still : (swept.find? stage key).filter (CacheEntry.validAt now) =
        swept.find? stage key := by
      have found := keyed.find?_sweep now stage key
      rw [show swept.find? stage key = _ from found, filter_validAt_later (Nat.le_refl now)]
    rw [get_eq, still, Option.isSome_map, List.mem_toFinset, find?, List.find?_isSome]
    simp only [List.mem_map, CacheEntry.isFor_iff]

/-- Whatever a cache went through while its clock did not go back, a read finds exactly the value
of the last put for its pair, if no removal came since and neither timeout has run out. No read
notices calls for other pairs, sweeps, or reads that found nothing, and after a sweep the size is
the number of pairs for which a read finds a value. -/
theorem tellsHistory {c : AuthCache} (empty : c.entries = []) : TellsHistory c where
  get_iff _ _ _ _ _ inTime := get_iff_put empty inTime
  others_unnoticed _ _ _ _ inTime := get_filter_concerns empty inTime
  evict_unnoticed _ _ _ _ _ _ inTime := get_evictExpired empty inTime
  put_sweep_unnoticed _ _ _ _ _ _ _ _ _ _ _ inTime := get_put_sweep empty inTime
  failed_get_unnoticed _ _ _ _ _ _ _ _ inTime failed := get_failed empty inTime failed
  size_evicted events now := ((keyed_of_empty empty).run events).size_evicted now

/-- Renewed by a read at 85, an entry put at 10 is found until its live timeout runs out at 110,
which another entry's sweep at 85 has no part in. -/
theorem tellsHistory_renewed :
    let start : AuthCache := { defaultIdle := 50, defaultLive := 100 }
    let alice : CachedAuth := ⟨"alice", ["user"]⟩
    let events : List CacheEvent :=
      [.get 40 "basic" "alice", .put 85 "form" "alice" alice none none, .get 85 "basic" "alice",
        .removeStage "form", .evictExpired 100]
    let run := start.run (.put 10 "basic" "alice" alice none none :: events)
    start.entries = [] ∧ (run.get 109 "basic" "alice").1 = some alice ∧
      (run.get 110 "basic" "alice").1 = none := by
  intro start alice events run
  have tells := tellsHistory (c := start) rfl
  refine ⟨rfl, ?_, by rfl⟩
  apply (tells.get_iff _ 109 "basic" "alice" alice ?_).mpr
  · refine ⟨[], 10, none, none, events, rfl, ?_, by decide, ?_⟩
    · unfold Untouched
      decide
    · decide
  · unfold CacheEvent.InTime
    decide

end AuthCache
end MapGate
