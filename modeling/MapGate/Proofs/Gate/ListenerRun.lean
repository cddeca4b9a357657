import MapGate.Gate.Listener
import MapGate.Proofs.Gate.Reload

/-!
A gate with its reload listener, while configurations are published, the listener wakes up and the
gate goes on working. The last configuration that the guard accepts is in force as soon as the
listener is done, unless another one took its place before the listener woke up. A configuration
that was overwritten so is lost, even to one that is then refused.
-/
namespace MapGate

def Config.Acceptable (config : Config) : Prop :=
  ∃ settings, GuardSettings.ofConfig config.bruteForce = .ok settings

theorem Config.refused_iff {config : Config} :
    ¬ config.Acceptable ↔ ∃ entry ∈ config.bruteForce.whitelist, Whitelist.Offends entry := by
  rw [← GuardSettings.ofConfig_fails_iff]
  unfold Acceptable
  cases GuardSettings.ofConfig config.bruteForce <;> simp

/-- Traffic is whatever else happens to the gate. -/
inductive ListenerEvent (σ : Type) where
  | publish (config : Config)
  | wake
  | close
  | traffic (event : GateEvent σ)

namespace ListenerEvent

variable {σ : Type}

/-- Traffic that brings no configuration to the gate by another way. -/
def leavesConfig : ListenerEvent σ → Bool
  | traffic (.guard (.reconfigure _)) => false
  | traffic (.reload _) => false
  | _ => true

def isPublish : ListenerEvent σ → Bool
  | publish _ => true
  | _ => false

def isClose : ListenerEvent σ → Bool
  | close => true
  | _ => false

/-- Nothing is published once the sender is gone. -/
def SenderGoesLast (events : List (ListenerEvent σ)) : Prop :=
  events.Pairwise fun first later => first.isClose = true → later.isPublish = false

theorem SenderGoesLast.open_before {before after : List (ListenerEvent σ)} {config : Config}
    (sender : SenderGoesLast (before ++ .publish config :: after)) : .close ∉ before := by
  intro closed
  have late := (List.pairwise_append.mp sender).2.2 .close closed _ List.mem_cons_self rfl
  contradiction

/-- Another configuration is published before the listener wakes up. -/
def Overwritten : List (ListenerEvent σ) → Prop
  | publish _ :: _ => True
  | wake :: _ => False
  | _ :: rest => Overwritten rest
  | [] => False

def isQuiet : ListenerEvent σ → Bool
  | publish _ => false
  | wake => false
  | close => true
  | traffic _ => true

def Quiet (events : List (ListenerEvent σ)) : Prop := ∀ event ∈ events, event.isQuiet = true

theorem seen_or_quiet {after : List (ListenerEvent σ)} (kept : ¬ Overwritten after) :
    (∃ between rest, after = between ++ .wake :: rest ∧ Quiet between) ∨ Quiet after := by
  induction after with
  | nil => exact .inr (by simp [Quiet])
  | cons event rest ih =>
    have extend (quiet : event.isQuiet = true) (later : ¬ Overwritten rest) :
        (∃ between tail, event :: rest = between ++ .wake :: tail ∧ Quiet between) ∨
          Quiet (event :: rest) := by
      rcases ih later with ⟨between, tail, rfl, calm⟩ | calm
      · exact .inl ⟨event :: between, tail, rfl, List.forall_mem_cons.mpr ⟨quiet, calm⟩⟩
      · exact .inr (List.forall_mem_cons.mpr ⟨quiet, calm⟩)
    cases event with
    | publish config => exact absurd trivial kept
    | wake => exact .inl ⟨[], rest, rfl, by simp [Quiet]⟩
    | close => exact extend rfl kept
    | traffic event => exact extend rfl kept

end ListenerEvent

/-- The settings are those of a configuration, and the table is what it was compiled to when the
listener woke up. -/
structure InForce {σ : Type} (woken : Gate σ) (config : Config) (g : Gate σ) : Prop where
  settings : g.guard.settings.Follows config.bruteForce
  table : g.pipeline.table = (PipelineTable.compile
    (woken.pipeline.resolver.without woken.pipeline.retired) config.filterChains
    woken.pipeline.resolverState).1

structure SameConfig {σ : Type} (g after : Gate σ) : Prop where
  settings : after.guard.settings = g.guard.settings
  table : after.pipeline.table = g.pipeline.table

namespace SameConfig

variable {σ : Type} {g after : Gate σ}

theorem refl (g : Gate σ) : SameConfig g g := ⟨rfl, rfl⟩

theorem trans (first : SameConfig g after) {last : Gate σ} (second : SameConfig after last) :
    SameConfig g last :=
  ⟨second.settings.trans first.settings, second.table.trans first.table⟩

theorem inForce (same : SameConfig g after) {woken : Gate σ} {config : Config}
    (inForce : InForce woken config g) : InForce woken config after where
  settings := by rw [same.settings]; exact inForce.settings
  table := by rw [same.table]; exact inForce.table

end SameConfig

namespace ListeningGate

open ListenerEvent

variable {σ : Type} {l : ListeningGate σ}

def step (l : ListeningGate σ) : ListenerEvent σ → ListeningGate σ
  | .publish config => l.publish config
  | .wake => l.wake.2
  | .close => l.close
  | .traffic event => { l with gate := l.gate.step event }

def run (l : ListeningGate σ) (events : List (ListenerEvent σ)) : ListeningGate σ :=
  events.foldl step l

/-- The listener has nothing left to do: it waits, or has ended. -/
def Settled (l : ListeningGate σ) : Prop := l.updates.unseen = none ∨ l.ended = true

theorem run_append (l : ListeningGate σ) (before after : List (ListenerEvent σ)) :
    l.run (before ++ after) = (l.run before).run after :=
  List.foldl_append

theorem traffic_sameConfig (g : Gate σ) {event : GateEvent σ}
    (leaves : (ListenerEvent.traffic event).leavesConfig = true) : SameConfig g (g.step event) := by
  cases event with
  | guard event =>
    refine ⟨Guard.step_settings ?_, rfl⟩
    rintro config rfl
    contradiction
  | reload config => contradiction
  | filters | resetFilters | lookup | cache | resolverChange => exact ⟨rfl, rfl⟩

/-- One wake-up of a listener that has not ended. -/
inductive Wakes (l : ListeningGate σ) : ListeningGate σ → Prop where
  | idle (unseen : l.updates.unseen = none) : Wakes l { l with ended := l.updates.closed }
  | reloads {config : Config} (unseen : l.updates.unseen = some config) :
      Wakes l { l with
        gate := (l.gate.reload config).2
        updates := { l.updates with unseen := none } }

theorem wake_wakes (running : l.ended = false) : Wakes l (l.step .wake) := by
  have on : ¬ l.ended = true := Bool.eq_false_iff.mp running
  rw [step, wake, if_neg on]
  split
  case h_1 config unseen => exact .reloads unseen
  case h_2 unseen => exact .idle unseen

theorem wake_ended (ended : l.ended = true) : l.step .wake = l := by
  unfold step wake
  rw [ended, if_pos rfl]

theorem reload_refusedConfig {g : Gate σ} {config : Config} (refused : ¬ config.Acceptable) :
    (g.reload config).2 = g := by
  cases parsed : GuardSettings.ofConfig config.bruteForce with
  | ok settings => exact absurd ⟨settings, parsed⟩ refused
  | error e => rw [Gate.reload_of_error parsed]

theorem reload_inForce (g : Gate σ) {config : Config} (accepted : config.Acceptable) :
    InForce g config (g.reload config).2 := by
  obtain ⟨settings, parsed⟩ := accepted
  rw [Gate.reload_of_ok parsed]
  exact ⟨GuardSettings.ofConfig_eq_ok_iff.mp parsed, rfl⟩

def NothingPending (l : ListeningGate σ) : Prop :=
  ∀ config, l.updates.unseen = some config → ¬ config.Acceptable

/-- As long as only refused configurations are published, none of them changes anything. -/
theorem step_refused {event : ListenerEvent σ} (pending : NothingPending l)
    (leaves : event.leavesConfig = true)
    (refused : ∀ config, event = .publish config → ¬ config.Acceptable) :
    NothingPending (l.step event) ∧ SameConfig l.gate (l.step event).gate := by
  cases event with
  | publish config =>
    refine ⟨?_, .refl l.gate⟩
    intro latest unseen
    obtain rfl := Option.some.inj unseen
    exact refused config rfl
  | wake =>
    cases ended : l.ended with
    | true =>
      rw [wake_ended ended]
      exact ⟨pending, .refl l.gate⟩
    | false =>
      have wakes := wake_wakes ended
      generalize l.step .wake = after at wakes ⊢
      cases wakes with
      | idle unseen => exact ⟨pending, .refl l.gate⟩
      | reloads unseen =>
        rw [reload_refusedConfig (pending _ unseen)]
        exact ⟨by simp [NothingPending], .refl l.gate⟩
  | close => exact ⟨pending, .refl l.gate⟩
  | traffic event => exact ⟨pending, traffic_sameConfig l.gate leaves⟩

theorem run_refused {events : List (ListenerEvent σ)} (pending : NothingPending l)
    (leave : ∀ event ∈ events, event.leavesConfig = true)
    (refused : ∀ config, .publish config ∈ events → ¬ config.Acceptable) :
    SameConfig l.gate (l.run events).gate := by
  induction events generalizing l with
  | nil => exact .refl l.gate
  | cons event rest ih =>
    have first : ∀ config, event = .publish config → ¬ config.Acceptable := by
      rintro config rfl
      exact refused config List.mem_cons_self
    obtain ⟨next, same⟩ := step_refused pending (leave event List.mem_cons_self) first
    exact same.trans (ih next (fun e member => leave e (List.mem_cons_of_mem _ member))
      fun config member => refused config (List.mem_cons_of_mem _ member))

/-- Until the sender is gone, the listener does not end. -/
theorem running_run {events : List (ListenerEvent σ)} (running : l.ended = false)
    (opened : l.updates.closed = false) (unclosed : .close ∉ events) :
    (l.run events).ended = false := by
  induction events generalizing l with
  | nil => exact running
  | cons event rest ih =>
    have later : .close ∉ rest := fun member => unclosed (List.mem_cons_of_mem _ member)
    cases event with
    | close => exact absurd List.mem_cons_self unclosed
    | wake =>
      have wakes := wake_wakes running
      rw [run, List.foldl_cons]
      generalize l.step .wake = after at wakes ⊢
      cases wakes with
      | idle unseen => exact ih opened opened later
      | reloads unseen => exact ih running opened later
    | publish config => exact ih running opened later
    | traffic event => exact ih running opened later

theorem run_quiet {events : List (ListenerEvent σ)} (quiet : Quiet events) :
    (l.run events).updates.unseen = l.updates.unseen ∧ (l.run events).ended = l.ended := by
  induction events generalizing l with
  | nil => exact ⟨rfl, rfl⟩
  | cons event rest ih =>
    obtain ⟨first, others⟩ := List.forall_mem_cons.mp quiet
    cases event with
    | publish | wake => contradiction
    | close => exact ih (l := l.close) others
    | traffic event => exact ih (l := { l with gate := l.gate.step event }) others

theorem run_overwritten {after : List (ListenerEvent σ)} (overwritten : Overwritten after)
    (l : ListeningGate σ) (unseen : Option Config) :
    ListeningGate.run { l with updates := { l.updates with unseen } } after = l.run after := by
  induction after generalizing l with
  | nil => contradiction
  | cons event rest ih =>
    cases event with
    | publish config => rfl
    | wake => contradiction
    | close => exact ih overwritten l.close
    | traffic event => exact ih overwritten { l with gate := l.gate.step event }

theorem publish_inForce {config : Config} {after : List (ListenerEvent σ)}
    (running : l.ended = false) (accepted : config.Acceptable)
    (leave : ∀ event ∈ after, event.leavesConfig = true)
    (refused : ∀ later, .publish later ∈ after → ¬ later.Acceptable) (kept : ¬ Overwritten after)
    (settled : (l.run (.publish config :: after)).Settled) :
    ∃ between rest, after = between ++ .wake :: rest ∧
      InForce (l.run (.publish config :: between)).gate config
        (l.run (.publish config :: after)).gate := by
  rcases seen_or_quiet kept with ⟨between, rest, rfl, quiet⟩ | quiet
  · refine ⟨between, rest, rfl, ?_⟩
    obtain ⟨unseen, still⟩ := run_quiet (l := l.publish config) quiet
    have wakes := wake_wakes (still.trans running)
    rw [← List.cons_append, run_append, run, List.foldl_cons]
    change InForce ((l.publish config).run between).gate config
      ((((l.publish config).run between).step .wake).run rest).gate
    generalize (l.publish config).run between = woken at unseen wakes ⊢
    generalize woken.step .wake = reloaded at wakes ⊢
    cases wakes with
    | idle none =>
      rw [none] at unseen
      contradiction
    | reloads seen =>
      obtain rfl := Option.some.inj (unseen.symm.trans seen)
      -- what is published from here on is refused, and the reload left nothing unseen
      refine SameConfig.inForce ?_ (reload_inForce woken.gate accepted)
      apply run_refused (l := { woken with
        gate := (woken.gate.reload config).2
        updates := { woken.updates with unseen := none } })
      · simp [NothingPending]
      · intro event member
        exact leave event (List.mem_append_right _ (List.mem_cons_of_mem _ member))
      · intro later member
        exact refused later (List.mem_append_right _ (List.mem_cons_of_mem _ member))
  · -- nobody took it up, so the listener still has to
    obtain ⟨unseen, still⟩ := run_quiet (l := l.publish config) quiet
    rcases settled with none | ended
    · exact absurd (unseen.symm.trans none) (by simp [publish, Channel.publish])
    · exact absurd (ended.symm.trans (still.trans running)) (by simp)

/-- What the listener makes of the configurations published to a gate. -/
structure FollowsPublished (start : Gate σ) (events : List (ListenerEvent σ)) : Prop where
  untouched : (∀ config, .publish config ∈ events → ¬ config.Acceptable) →
    SameConfig start (run { gate := start } events).gate
  applied : ∀ before config after, events = before ++ .publish config :: after →
    config.Acceptable → (∀ later, .publish later ∈ after → ¬ later.Acceptable) →
    ¬ Overwritten after → (run { gate := start } events).Settled →
      ∃ between rest, after = between ++ .wake :: rest ∧
        InForce (run { gate := start } (before ++ .publish config :: between)).gate config
          (run { gate := start } events).gate
  lost : ∀ before config after, events = before ++ .publish config :: after →
    Overwritten after →
      run { gate := start } events = run { gate := start } (before ++ after)

/-- When the listener is done, the last acceptable configuration is in force, if there was one and
no other took its place unseen. A configuration that was overwritten unseen might as well not have
been published. -/
theorem follows_published {start : Gate σ} {events : List (ListenerEvent σ)}
    (leave : ∀ event ∈ events, event.leavesConfig = true) (sender : SenderGoesLast events) :
    FollowsPublished start events := by
  constructor
  case untouched =>
    intro refused
    exact run_refused (l := { gate := start }) (by simp [NothingPending]) leave refused
  case applied =>
    rintro before config after rfl accepted refused kept settled
    have running : (run { gate := start } before).ended = false :=
      running_run rfl rfl sender.open_before
    have later : ∀ event ∈ after, event.leavesConfig = true := fun event member =>
      leave event (List.mem_append_right _ (List.mem_cons_of_mem _ member))
    simp only [run_append] at settled ⊢
    exact publish_inForce running accepted later refused kept settled
  case lost =>
    rintro before config after rfl overwritten
    rw [run_append, run_append]
    exact run_overwritten overwritten (run { gate := start } before) (some config)

/-- A refused configuration comes after the listener woke up for an acceptable one, and then the
sender goes. -/
theorem follows_published_seen :
    let settings : GuardSettings :=
      { enabled := true, minDelay := 5, maxDelay := 9, maxBlocked := 0, whitelist := ⟨[]⟩,
        min_le_max := by decide }
    let start : Gate StageRegistry := {
      guard := { settings }
      pipeline := { resolver := StageRegistry.resolver, resolverState := .withBuiltins }
      filters := {} }
    let good : Config := {
      bruteForce := { whitelist := [] }
      filterChains := [{ name := "web", patterns := ["/web/**"] }] }
    let bad : Config := { bruteForce := { whitelist := ["300.0.0.1"] } }
    let after : List (ListenerEvent StageRegistry) :=
      [.traffic (.guard (.wait 3)), .wake, .publish bad, .wake, .close, .wake]
    (∀ event ∈ .publish good :: after, event.leavesConfig = true) ∧
      SenderGoesLast (.publish good :: after) ∧ good.Acceptable ∧ ¬ bad.Acceptable ∧
      ∃ between rest, after = between ++ .wake :: rest ∧
        InForce (run { gate := start } (.publish good :: between)).gate good
          (run { gate := start } (.publish good :: after)).gate := by
  intro settings start good bad after
  have accepted : good.Acceptable := ⟨_, rfl⟩
  have offends : Whitelist.Offends "300.0.0.1" := by decide +kernel
  have refused : ¬ bad.Acceptable := Config.refused_iff.mpr ⟨_, List.mem_cons_self, offends⟩
  have leave : ∀ event ∈ .publish good :: after, event.leavesConfig = true := by
    simp [after, leavesConfig]
  have sender : SenderGoesLast (.publish good :: after) := by
    unfold SenderGoesLast
    decide
  refine ⟨leave, sender, accepted, refused, ?_⟩
  refine (follows_published leave sender).applied [] good after rfl accepted ?_ ?_ ?_
  · simp [after, refused]
  · exact id
  · exact .inr (by decide +kernel)

/-- The same configurations, both published before the listener wakes up: the acceptable one is
lost. -/
theorem acceptable_lost :
    let settings : GuardSettings :=
      { enabled := true, minDelay := 5, maxDelay := 9, maxBlocked := 0, whitelist := ⟨[]⟩,
        min_le_max := by decide }
    let start : Gate StageRegistry := {
      guard := { settings }
      pipeline := { resolver := StageRegistry.resolver, resolverState := .withBuiltins }
      filters := {} }
    let good : Config := {
      bruteForce := { whitelist := [] }
      filterChains := [{ name := "web", patterns := ["/web/**"] }] }
    let bad : Config := { bruteForce := { whitelist := ["300.0.0.1"] } }
    let l := run { gate := start } [.publish good, .publish bad, .wake]
    good.Acceptable ∧ ¬ bad.Acceptable ∧ l.Settled ∧ SameConfig start l.gate ∧
      ∀ woken, ¬ InForce woken good l.gate := by
  intro settings start good bad l
  have offends : Whitelist.Offends "300.0.0.1" := by decide +kernel
  have refused : ¬ bad.Acceptable := Config.refused_iff.mpr ⟨_, List.mem_cons_self, offends⟩
  have unchanged : l.gate = start := reload_refusedConfig refused
  refine ⟨⟨_, rfl⟩, refused, .inl rfl, unchanged ▸ .refl start, ?_⟩
  intro woken inForce
  have drawn := inForce.settings.minDelay
  rw [unchanged] at drawn
  exact absurd drawn (by decide)

end ListeningGate
end MapGate
