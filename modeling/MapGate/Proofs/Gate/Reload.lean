import MapGate.Proofs.Auth.WhitelistEntries
import MapGate.Proofs.Gate.GateRun

/-!
Reloading a gate. The whitelist alone decides whether a configuration is refused, and a refused one
might as well not have come: the run without it has the same answers and ends in the same state. An
accepted one is in force in all components.
-/
namespace MapGate

theorem GuardSettings.ofConfig_fails_iff (config : BruteForceConfig) :
    (∃ e, GuardSettings.ofConfig config = .error e) ↔
      ∃ entry ∈ config.whitelist, Whitelist.Offends entry := by
  simp only [← Whitelist.parse_fails_iff, ofConfig_eq_error_iff]

namespace Gate

variable {σ : Type} {g : Gate σ} {config : Config}

theorem reload_of_error {e : WhitelistError}
    (failed : GuardSettings.ofConfig config.bruteForce = .error e) :
    g.reload config = (.error (.bruteForce e), g) := by
  simp [reload, reconfigureGuard, Guard.reconfigure, failed, Except.map]

theorem reload_of_ok {settings : GuardSettings}
    (accepted : GuardSettings.ofConfig config.bruteForce = .ok settings) :
    g.reload config = (.ok (g.pipeline.rebuild config.filterChains).1, {
      guard := { g.guard with settings, tracker := [] }
      pipeline := (g.pipeline.rebuild config.filterChains).2
      filters := g.filters.reset }) := by
  simp [reload, reconfigureGuard, Guard.reconfigure, accepted, Except.map, Guard.reset]

theorem reload_fails_iff (g : Gate σ) (config : Config) :
    (∃ e, (g.reload config).1 = .error e) ↔
      ∃ entry ∈ config.bruteForce.whitelist, Whitelist.Offends entry := by
  rw [← GuardSettings.ofConfig_fails_iff]
  cases parsed : GuardSettings.ofConfig config.bruteForce with
  | error e => simp [reload_of_error parsed]
  | ok settings => simp [reload_of_ok parsed]

theorem reload_refused {e : ReloadError} (refused : (g.reload config).1 = .error e) :
    (g.reload config).2 = g := by
  cases parsed : GuardSettings.ofConfig config.bruteForce with
  | error cause => rw [reload_of_error parsed]
  | ok settings =>
    rw [reload_of_ok parsed] at refused
    contradiction

theorem step_refused {event : GateEvent σ} (refused : (g.answer event).isRefusal = true) :
    g.step event = g := by
  cases event with
  | reload config =>
    cases result : (g.reload config).1 with
    | error e => exact reload_refused result
    | ok destroyed =>
      rw [answer, result] at refused
      contradiction
  | _ => contradiction

/-- The events of a run whose answers are not refusals. -/
def effective (g : Gate σ) (events : List (GateEvent σ)) : List (GateEvent σ) :=
  ((g.trace events).filter fun p => !p.2.isRefusal).map Prod.fst

theorem effective_cons_refused {event : GateEvent σ}
    (refused : (g.answer event).isRefusal = true) (rest : List (GateEvent σ)) :
    g.effective (event :: rest) = g.effective rest := by
  simp [effective, trace, refused, step_refused refused]

theorem effective_cons_kept {event : GateEvent σ} (kept : (g.answer event).isRefusal = false)
    (rest : List (GateEvent σ)) :
    g.effective (event :: rest) = event :: (g.step event).effective rest := by
  simp [effective, trace, kept]

theorem run_effective (g : Gate σ) (events : List (GateEvent σ)) :
    g.run (g.effective events) = g.run events := by
  induction events generalizing g with
  | nil => rfl
  | cons event rest ih =>
    cases refused : (g.answer event).isRefusal with
    | true =>
      have later := ih (g.step event)
      rw [step_refused refused] at later
      rw [effective_cons_refused refused, later, run, run, List.foldl_cons, step_refused refused]
    | false =>
      rw [effective_cons_kept refused]
      exact ih (g.step event)

theorem trace_effective (g : Gate σ) (events : List (GateEvent σ)) :
    g.trace (g.effective events) = (g.trace events).filter fun p => !p.2.isRefusal := by
  induction events generalizing g with
  | nil => rfl
  | cons event rest ih =>
    have later := ih (g.step event)
    cases refused : (g.answer event).isRefusal with
    | true =>
      rw [step_refused refused] at later
      rw [effective_cons_refused refused, later]
      simp [trace, refused, step_refused refused]
    | false =>
      rw [effective_cons_kept refused]
      simp [trace, refused, later]

theorem filters_step {event : GateEvent σ} (other : event.accessesFilters = false)
    (forgotten : g.filters.loaded = none) : (g.step event).filters = g.filters := by
  have cleared : g.filters.reset = g.filters := by
    rw [Catalog.Registry.reset, ← forgotten]
  cases event with
  | filters answer => contradiction
  | resetFilters => exact cleared
  | reload config =>
    cases parsed : GuardSettings.ofConfig config.bruteForce with
    | error e => rw [step, reload_of_error parsed]
    | ok settings =>
      rw [step, reload_of_ok parsed]
      exact cleared
  | guard | lookup | cache | resolverChange => rfl

theorem filters_run {between : List (GateEvent σ)}
    (others : ∀ event ∈ between, event.accessesFilters = false)
    (forgotten : g.filters.loaded = none) : (g.run between).filters = g.filters := by
  induction between generalizing g with
  | nil => rfl
  | cons event rest ih =>
    have first := filters_step (others event List.mem_cons_self) forgotten
    rw [← first] at forgotten
    have later := ih (fun e member => others e (List.mem_cons_of_mem _ member)) forgotten
    exact later.trans first

/-- The next access to the filters, whatever happens before it, is answered by their loader. -/
def AsksLoader (g : Gate σ) : Prop :=
  ∀ between, (∀ event ∈ between, event.accessesFilters = false) → ∀ answer,
    (g.run between).filters.filters answer = (answer, ⟨some answer, g.filters.loads + 1⟩)

theorem asksLoader_of_forgotten (forgotten : g.filters.loaded = none) : g.AsksLoader := by
  intro between others answer
  rw [filters_run others forgotten, Catalog.Registry.filters, forgotten]

/-- What a gate is like when a configuration has just been applied to it. -/
structure Applied (before : Gate σ) (config : Config) (after : Gate σ) : Prop where
  settings : after.guard.settings.Follows config.bruteForce
  untracked : ∀ username, after.guard.isTracked username = false
  loader : after.AsksLoader
  table : after.pipeline.table = (PipelineTable.compile
    (before.pipeline.resolver.without before.pipeline.retired) config.filterChains
    before.pipeline.resolverState).1
  cache : ∀ c ∈ after.pipeline.cache, c.entries = []

theorem reload_applied {destroyed : List Stage} (accepted : (g.reload config).1 = .ok destroyed) :
    Applied g config (g.reload config).2 := by
  cases parsed : GuardSettings.ofConfig config.bruteForce with
  | error e =>
    rw [reload_of_error parsed] at accepted
    contradiction
  | ok settings =>
    rw [reload_of_ok parsed]
    constructor
    case settings => exact GuardSettings.ofConfig_eq_ok_iff.mp parsed
    case untracked => exact fun username => rfl
    case loader => exact asksLoader_of_forgotten rfl
    case table => rfl
    case cache =>
      intro c kept
      obtain ⟨old, _, rfl⟩ := Option.map_eq_some_iff.mp kept
      rfl

/-- Whatever a gate went through, a reload fails on account of the whitelist alone and then changes
nothing, so that the same run without the reloads that failed has the same answers and ends in the
same state; a reload that succeeds is in force in every component. -/
theorem reload_applies_or_changes_nothing (start : Gate σ) (events : List (GateEvent σ)) :
    let g := start.run events
    (∀ config, (∃ e, (g.reload config).1 = .error e) ↔
      ∃ entry ∈ config.bruteForce.whitelist, Whitelist.Offends entry) ∧
    (∀ config e, (g.reload config).1 = .error e → (g.reload config).2 = g) ∧
    (start.trace (start.effective events) = (start.trace events).filter (!·.2.isRefusal) ∧
      start.run (start.effective events) = g) ∧
    ∀ config destroyed, (g.reload config).1 = .ok destroyed →
      Applied g config (g.reload config).2 := by
  intro g
  refine ⟨reload_fails_iff g, ?_, ⟨trace_effective start events, run_effective start events⟩, ?_⟩
  · intro config e refused
    exact reload_refused refused
  · intro config destroyed accepted
    exact reload_applied accepted

/-- While a login is delayed, one configuration comes with a host name in its whitelist and another
one without. -/
theorem reload_applies_or_changes_nothing_localhost :
    let settings : GuardSettings :=
      { enabled := true, minDelay := 5, maxDelay := 9, maxBlocked := 0, whitelist := ⟨[]⟩,
        min_le_max := by decide }
    let start : Gate StageRegistry := {
      guard := { settings }
      pipeline := {
        resolver := StageRegistry.resolver
        resolverState := .withBuiltins
        cache := some {} }
      filters := {} }
    let failure : AuthEvent := { kind := .badCredentials, username := some "alice" }
    let bad : Config := { bruteForce := { whitelist := ["10.0.0.0/8", " localhost "] } }
    let good : Config := {
      bruteForce := { whitelist := ["10.0.0.0/8", " "] }
      filterChains := [{ name := "web", patterns := ["/web/**"], requireSsl := true }] }
    let events : List (GateEvent StageRegistry) :=
      [.guard (.attempt failure 3), .reload bad, .filters [{ name := "rules" }],
        .cache (.put 10 "basic" "alice" ⟨"alice", []⟩ none none)]
    let g := start.run events
    (∃ e, (g.reload bad).1 = .error e) ∧ (g.reload bad).2 = g ∧
      (start.effective events).length = 3 ∧ start.run (start.effective events) = g ∧
      (g.reload good).1 = .ok [] ∧ g.guard.isTracked "alice" = true ∧
      Applied g good (g.reload good).2 := by
  intro settings start failure bad good events g
  obtain ⟨fails_iff, unchanged, ⟨_, same⟩, applied⟩ :=
    reload_applies_or_changes_nothing start events
  have offends : Whitelist.Offends " localhost " := by decide +kernel
  have accepted : (g.reload good).1 = .ok [] := by rfl
  obtain ⟨e, refused⟩ := (fails_iff bad).mpr ⟨_, List.mem_cons_of_mem _ List.mem_cons_self, offends⟩
  exact ⟨⟨e, refused⟩, unchanged bad e refused, by rfl, same, accepted, by rfl,
    applied good [] accepted⟩

end Gate
end MapGate
