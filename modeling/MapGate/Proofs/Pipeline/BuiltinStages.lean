import Mathlib.Data.List.Forall2
import MapGate.Proofs.Pipeline.ReadyRegistry
import MapGate.Proofs.Pipeline.StageLifetime

/-!
The built-in stages of a registry behind a proxy. Whatever is registered, taken out by name or
published, the registry stays ready, and so every enabled chain of a published table begins with the
stages that guard it.
-/
namespace MapGate

inductive RegistryEvent where
  | register (stage : Stage)
  | unregister (name : String)
  | rebuild (chains : List FilterChain)

namespace RegistryEvent

def onProxy : RegistryEvent → ProxyEvent StageRegistry
  | register stage => .resolverChange fun r => (r.register stage).2
  | unregister name => .resolverChange fun r => (r.unregister name).2
  | rebuild chains => .rebuild chains

def declares (before : List FilterChain) : RegistryEvent → List FilterChain
  | rebuild chains => chains
  | _ => before

end RegistryEvent

/-- A proxy that resolves by a registry, with the chains of its last rebuild and the instances that
were in the registry so far. -/
structure RegistryHistory where
  served : ProxyHistory StageRegistry
  declared : List FilterChain
  known : List Stage

/-- An enabled chain begins with its guarding stages, and none of these is gone. -/
def GuardedBy (gone : List StageId) (c : FilterChain) (m : CompiledChain) : Prop :=
  c.disabled = false → ∃ first rest, m.stages = first ++ rest ∧
    first.map Stage.name = c.guardNames ∧ ∀ s ∈ first, s.id ∉ gone

namespace RegistryHistory

def registry (h : RegistryHistory) : StageRegistry := h.served.proxy.resolverState

def start (cache : Option AuthCache) : RegistryHistory where
  served := .start StageRegistry.resolver .withBuiltins cache
  declared := []
  known := StageRegistry.withBuiltins.stages

def step (h : RegistryHistory) (event : RegistryEvent) : RegistryHistory where
  served := h.served.step event.onProxy
  declared := event.declares h.declared
  known := h.known ++ (h.served.step event.onProxy).proxy.resolverState.stages

def run (h : RegistryHistory) (events : List RegistryEvent) : RegistryHistory :=
  events.foldl step h

/-- An instance keeps its name, and one that a registry makes has been in it from the first. -/
def MayExist (h : RegistryHistory) : Stage → Prop
  | ⟨.given key, name⟩ => ∀ t ∈ h.known, t.id = .given key → t.name = name
  | ⟨.builtin serial, name⟩ => ⟨.builtin serial, name⟩ ∈ h.known

/-- Destroyed instances are not registered, and built-in names not taken out. -/
def Permits (h : RegistryHistory) : RegistryEvent → Prop
  | .register stage => h.MayExist stage ∧ stage.id ∉ stageIds h.served.destroyed
  | .unregister name => isBuiltin name = false
  | .rebuild _ => True

def PermitsAll (h : RegistryHistory) : List RegistryEvent → Prop
  | [] => True
  | event :: rest => h.Permits event ∧ PermitsAll (h.step event) rest

instance (h : RegistryHistory) : (stage : Stage) → Decidable (h.MayExist stage)
  | ⟨.given key, name⟩ => inferInstanceAs (Decidable (∀ t ∈ h.known, t.id = .given key → t.name = name))
  | ⟨.builtin serial, name⟩ => inferInstanceAs (Decidable (⟨.builtin serial, name⟩ ∈ h.known))

instance (h : RegistryHistory) : (event : RegistryEvent) → Decidable (h.Permits event)
  | .register stage =>
    inferInstanceAs (Decidable (h.MayExist stage ∧ stage.id ∉ stageIds h.served.destroyed))
  | .unregister name => inferInstanceAs (Decidable (isBuiltin name = false))
  | .rebuild _ => inferInstanceAs (Decidable True)

instance decidablePermitsAll (h : RegistryHistory) :
    (events : List RegistryEvent) → Decidable (h.PermitsAll events)
  | [] => inferInstanceAs (Decidable True)
  | event :: rest =>
    have := decidablePermitsAll (h.step event) rest
    inferInstanceAs (Decidable (h.Permits event ∧ (h.step event).PermitsAll rest))

structure Sound (h : RegistryHistory) : Prop where
  resolver : h.served.proxy.resolver = StageRegistry.resolver
  balanced : h.served.Balanced
  ready : Ready h.registry h.known (stageIds h.served.proxy.retired)
  used : ∀ s ∈ h.served.proxy.table.allStages, s ∈ h.known
  guarded : List.Forall₂ (GuardedBy (stageIds h.served.destroyed)) h.declared
    h.served.proxy.table.chains

theorem sound_start (cache : Option AuthCache) : Sound (start cache) where
  resolver := rfl
  balanced := ProxyHistory.balanced_start _ _ _
  ready := Ready.withBuiltins
  used s member := by
    simp [start, ProxyHistory.start, PipelineTable.allStages, PipelineTable.empty] at member
  guarded := List.Forall₂.nil

variable {h : RegistryHistory}

theorem sound_change (sound : Sound h) {change : StageRegistry → StageRegistry} {more : List Stage}
    (ready : Ready (change h.registry) (h.known ++ more) (stageIds h.served.proxy.retired)) :
    Sound { h with
      served := h.served.step (.resolverChange change)
      known := h.known ++ (change h.registry).stages } where
  resolver := sound.resolver
  balanced := ProxyHistory.balanced_step sound.balanced (.resolverChange change)
  ready := ready.record sound.ready.past
  used s member := List.mem_append_left _ (sound.used s member)
  guarded := sound.guarded

theorem sound_register (sound : Sound h) {stage : Stage} (permitted : h.Permits (.register stage)) :
    Sound (h.step (.register stage)) := by
  obtain ⟨exist, alive⟩ := permitted
  rw [sound.balanced.log] at alive
  obtain ⟨id, name⟩ := stage
  have same : ∀ t ∈ h.known, t.id = id → t = ⟨id, name⟩ := by
    intro t member equal
    cases id with
    | given key =>
      have named : t.name = name := exist t member equal
      rw [← equal, ← named]
    | builtin serial => exact sound.ready.single t member _ exist equal
  have number : ∀ n, id = .builtin n → n < h.registry.nextSerial := by
    intro n equal
    cases id with
    | given key => contradiction
    | builtin serial => exact sound.ready.numbered _ exist n equal
  exact sound_change sound (sound.ready.put (Nat.le_refl _) same number alive)

theorem sound_unregister (sound : Sound h) {name : String} (permitted : h.Permits (.unregister name)) :
    Sound (h.step (.unregister name)) := by
  have ready := sound.ready.drop permitted
  rw [← List.append_nil h.known] at ready
  exact sound_change sound ready

theorem sound_rebuild (sound : Sound h) (chains : List FilterChain) :
    Sound (h.step (.rebuild chains)) := by
  obtain ⟨compiled, kept⟩ := Ready.rebuild sound.resolver sound.ready chains
  have balanced : (h.step (.rebuild chains)).served.Balanced :=
    ProxyHistory.balanced_step sound.balanced (.rebuild chains)
  have table : (h.step (.rebuild chains)).served.proxy.table.chains =
      chains.map (·.compiledFrom h.registry.find?) := compiled
  have stages (s : Stage) : s ∈ (h.step (.rebuild chains)).served.proxy.table.allStages ↔
      ∃ c ∈ chains, s ∈ c.stagesFrom h.registry.find? := by
    simp [PipelineTable.allStages, table, FilterChain.compiledFrom]
  have destroyed : ∀ s ∈ (h.served.proxy.rebuild chains).1, s ∈ h.known := by
    intro s member
    have unique := (List.mem_filter.mp member).1
    exact sound.used s ((PipelineTable.distinct_sublist _ _).subset unique)
  constructor
  case resolver => exact sound.resolver
  case balanced => exact balanced
  case ready =>
    -- the registry hears of each destroyed instance, and of nothing else
    obtain ⟨more, ready⟩ := sound.ready.retireAll destroyed
    rw [← Proxy.retired_rebuild] at ready
    unfold registry at ready
    rw [← kept] at ready
    refine ready.record ?_
    intro id dead
    rw [Proxy.retired_rebuild] at dead
    rcases List.mem_append.mp dead with old | now
    · exact sound.ready.past id old
    · obtain ⟨s, member, rfl⟩ := List.mem_map.mp now
      exact List.mem_map_of_mem (destroyed s member)
  case used =>
    intro s member
    obtain ⟨c, _, inside⟩ := (stages s).mp member
    exact List.mem_append_left _ (sound.ready.known_of_mem_stagesFrom inside)
  case guarded =>
    rw [table]
    refine List.forall₂_map_right_iff.mpr (List.forall₂_same.mpr ?_)
    intro c declared enabled
    obtain ⟨first, rest, whole, names⟩ := sound.ready.guards enabled
    refine ⟨first, rest, whole, names, ?_⟩
    -- what the new table has is not among the instances destroyed or retired
    intro s member gone
    rw [balanced.log] at gone
    have inside : s ∈ c.stagesFrom h.registry.find? := whole ▸ List.mem_append_left _ member
    have listed := (stages s).mpr ⟨c, declared, inside⟩
    exact balanced.apart s.id gone (List.mem_map_of_mem listed)

theorem sound_step (sound : Sound h) {event : RegistryEvent} (permitted : h.Permits event) :
    Sound (h.step event) := by
  cases event with
  | register stage => exact sound_register sound permitted
  | unregister name => exact sound_unregister sound permitted
  | rebuild chains => exact sound_rebuild sound chains

theorem sound_run {events : List RegistryEvent} (sound : Sound h) (permitted : h.PermitsAll events) :
    Sound (h.run events) := by
  induction events generalizing h with
  | nil => exact sound
  | cons event rest ih => exact ih (sound_step sound permitted.1) permitted.2

/-- Whatever is registered, taken out and published, every enabled chain of the published table
begins with the stages that guard it, none of which has been destroyed, and the registry finds no
retired instance under any name. -/
theorem guards_in_place (cache : Option AuthCache) {events : List RegistryEvent}
    (permitted : (start cache).PermitsAll events) :
    let h := (start cache).run events
    List.Forall₂ (GuardedBy (stageIds h.served.destroyed)) h.declared h.served.proxy.table.chains ∧
      ∀ name s, h.registry.find? name = some s → ¬ h.served.IsRetired s.id := by
  intro h
  have sound : Sound h := sound_run (sound_start cache) permitted
  exact ⟨sound.guarded, sound.ready.live⟩

/-- A stage of its own stands in for the TLS check, is destroyed with the chains that use it, and
leaves a fresh built-in one behind. -/
def replacedTls : List RegistryEvent :=
  let secured : FilterChain := { name := "secured", requireSsl := true }
  [.register ⟨.given "tls", "ssl"⟩, .rebuild [secured], .unregister "basic", .rebuild [],
    .register ⟨.builtin 0, "ssl"⟩, .rebuild [secured]]

theorem guards_in_place_replacedTls :
    let h := (start none).run replacedTls
    (start none).PermitsAll replacedTls ∧
      List.Forall₂ (GuardedBy (stageIds h.served.destroyed)) h.declared
        h.served.proxy.table.chains ∧
      (∀ name s, h.registry.find? name = some s → ¬ h.served.IsRetired s.id) ∧
      h.served.destroyed = [⟨.given "tls", "ssl"⟩, ⟨.builtin 2, "noSessionContext"⟩] ∧
      h.served.proxy.table.allStages =
        [⟨.builtin 0, "ssl"⟩, ⟨.builtin 4, "noSessionContext"⟩] := by
  have permitted : (start none).PermitsAll replacedTls := by decide +kernel
  obtain ⟨guarded, live⟩ := guards_in_place none permitted
  exact ⟨permitted, guarded, live, by decide +kernel, by decide +kernel⟩

end RegistryHistory
end MapGate
