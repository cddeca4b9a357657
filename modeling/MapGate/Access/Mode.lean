/-!
Catalog modes: how a resource that the caller may not fully use is presented. Of two modes the
more restrictive one wins.
-/
namespace MapGate

inductive Mode where
  | hide
  | mixed
  | challenge
deriving DecidableEq, Repr

namespace Mode

def all : List Mode := [hide, mixed, challenge]

/-- The place of a mode in order of decreasing restriction. -/
def rank : Mode → Nat
  | hide => 0
  | mixed => 1
  | challenge => 2

def inter : Mode → Mode → Mode
  | hide, _ => hide
  | _, hide => hide
  | mixed, _ => mixed
  | _, mixed => mixed
  | challenge, challenge => challenge

def text : Mode → String
  | hide => "HIDE"
  | mixed => "MIXED"
  | challenge => "CHALLENGE"

def ofText? : String → Option Mode
  | "HIDE" => some hide
  | "MIXED" => some mixed
  | "CHALLENGE" => some challenge
  | _ => none

theorem rank_inter (a b : Mode) : (inter a b).rank = min a.rank b.rank := by
  cases a <;> cases b <;> rfl

end Mode
end MapGate
