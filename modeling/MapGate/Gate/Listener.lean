import MapGate.Gate.Basic

/-!
The reload listener: it waits on a channel that holds the latest published configuration, and
reloads the gate with each one it sees. Configurations that the gate refuses are skipped. When the
channel is closed, the listener takes what it has not seen yet and ends.
-/
namespace MapGate

/-- A channel with one receiver: the value the receiver has not seen yet, and whether the sender is
gone. -/
structure Channel (α : Type) where
  unseen : Option α := none
  closed : Bool := false

namespace Channel

variable {α : Type}

/-- A published value takes the place of one that was not seen. -/
def publish (c : Channel α) (value : α) : Channel α := { c with unseen := some value }

def close (c : Channel α) : Channel α := { c with closed := true }

end Channel

/-- A gate with its listener, which may have ended. -/
structure ListeningGate (σ : Type) where
  gate : Gate σ
  updates : Channel Config := {}
  ended : Bool := false

namespace ListeningGate

variable {σ : Type}

/-- One wake-up of the listener: it reloads with the unseen configuration, or ends when there is
none and the channel is closed. The destroyed stages are returned. -/
def wake (l : ListeningGate σ) : List Stage × ListeningGate σ :=
  if l.ended then ([], l)
  else match l.updates.unseen with
    | some config =>
      let updates : Channel Config := { l.updates with unseen := none }
      let (result, gate) := l.gate.reload config
      (result.toOption.getD [], { l with gate, updates })
    | none => ([], { l with ended := l.updates.closed })

def publish (l : ListeningGate σ) (config : Config) : ListeningGate σ :=
  { l with updates := l.updates.publish config }

def close (l : ListeningGate σ) : ListeningGate σ := { l with updates := l.updates.close }

end ListeningGate
end MapGate
