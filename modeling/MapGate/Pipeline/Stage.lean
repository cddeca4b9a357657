/-!
Pipeline stages, the resolvers that find them by name, and the registry of stages. A stage instance
is known by its identity; several instances may have one name, and one instance may serve many
chains. The built-in stages of a registry are replaced by fresh instances when they are retired.
-/
namespace MapGate

inductive StageId where
  | given (key : String)
  /-- An instance of a built-in stage, numbered by the registry that made it. -/
  | builtin (serial : Nat)
deriving DecidableEq, Repr

structure Stage where
  id : StageId
  name : String
deriving DecidableEq, Repr

/-- The stage that refuses requests not received over TLS. -/
def sslStage : String := "ssl"

/-- The stage that keeps the security context in a session and may create one. -/
def sessionStage : String := "sessionContext"

/-- The stage that keeps the security context only in a session that exists. -/
def noSessionStage : String := "noSessionContext"

/-- The name of the session stage for a chain that may or may not create sessions. -/
def sessionStageFor (allowCreation : Bool) : String :=
  if allowCreation then sessionStage else noSessionStage

def isBuiltin (name : String) : Bool :=
  name == sslStage || name == sessionStage || name == noSessionStage

/-- A source of stages with a state of its own. Its answer for a name may differ from call to
call. It is told of each stage that has been destroyed. -/
structure Resolver (σ : Type) where
  resolve : String → σ → Option Stage × σ
  retire : Stage → σ → σ

namespace Resolver

/-- A resolver whose answers depend on the name alone. -/
def ofFunction (stage? : String → Option Stage) : Resolver Unit where
  resolve name s := (stage? name, s)
  retire _ s := s

def without {σ : Type} (r : Resolver σ) (retired : List Stage) : Resolver σ where
  resolve name s :=
    match r.resolve name s with
    | (some stage, s) => if retired.any (fun t => t.id == stage.id) then (none, s) else (some stage, s)
    | (none, s) => (none, s)
  retire := r.retire

/-- Resolves a list of names in order and drops what is not found. -/
def resolveAll {σ : Type} (r : Resolver σ) : List String → σ → List Stage × σ
  | [], s => ([], s)
  | name :: rest, s =>
    let (found, s) := r.resolve name s
    let (stages, s) := resolveAll r rest s
    (found.toList ++ stages, s)

end Resolver

/-- Stages by name, and the number the next built-in instance gets. -/
structure StageRegistry where
  stages : List Stage := []
  nextSerial : Nat := 0
deriving DecidableEq, Repr

namespace StageRegistry

def find? (r : StageRegistry) (name : String) : Option Stage :=
  r.stages.find? fun s => s.name == name

/-- Registers a stage under its own name; the stage it replaces is returned. -/
def register (r : StageRegistry) (stage : Stage) : Option Stage × StageRegistry :=
  (r.find? stage.name,
    { r with stages := (r.stages.filter fun s => s.name != stage.name) ++ [stage] })

def unregister (r : StageRegistry) (name : String) : Option Stage × StageRegistry :=
  (r.find? name, { r with stages := r.stages.filter fun s => s.name != name })

def renew (r : StageRegistry) (name : String) : StageRegistry :=
  { (r.register ⟨.builtin r.nextSerial, name⟩).2 with nextSerial := r.nextSerial + 1 }

def withBuiltins : StageRegistry :=
  (((({} : StageRegistry).renew sslStage).renew sessionStage).renew noSessionStage)

def names (r : StageRegistry) : List String :=
  (r.stages.map Stage.name).mergeSort fun a b => decide (a ≤ b)

/-- Takes a destroyed stage out: a built-in one is replaced by a fresh instance, any other one
removed. An instance that is not the registered one changes nothing. -/
def retire (r : StageRegistry) (stage : Stage) : StageRegistry :=
  match r.find? stage.name with
  | some current =>
    if current.id = stage.id then
      if isBuiltin stage.name then r.renew stage.name else (r.unregister stage.name).2
    else r
  | none => r

def resolver : Resolver StageRegistry where
  resolve name r := (r.find? name, r)
  retire stage r := r.retire stage

end StageRegistry
end MapGate
