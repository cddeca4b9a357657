import MapGate.Access.Limits

/-!
Policies: the access level to enforce for a request, the response to a caller who oversteps it,
and the limits it was derived from. Policies are ordered by restrictiveness, first by level, then
by the mode of their limits, where absent limits restrict least.
-/
namespace MapGate

inductive AccessLevel where
  | hidden
  | metadata
  | readOnly
  | readWrite
deriving DecidableEq, Repr

namespace AccessLevel

def rank : AccessLevel → Nat
  | hidden => 0
  | metadata => 1
  | readOnly => 2
  | readWrite => 3

def text : AccessLevel → String
  | hidden => "HIDDEN"
  | metadata => "METADATA"
  | readOnly => "READ_ONLY"
  | readWrite => "READ_WRITE"

def ofText? : String → Option AccessLevel
  | "HIDDEN" => some hidden
  | "METADATA" => some metadata
  | "READ_ONLY" => some readOnly
  | "READ_WRITE" => some readWrite
  | _ => none

end AccessLevel

/-- What a caller who oversteps the level is told. -/
inductive Response where
  /-- As if the resource did not exist. -/
  | hide
  /-- A request for better credentials. -/
  | challenge
deriving DecidableEq, Repr

namespace Response

def label : Response → String
  | hide => "Hide"
  | challenge => "Challenge"

def text : Response → String
  | hide => "HIDE"
  | challenge => "CHALLENGE"

def ofText? : String → Option Response
  | "HIDE" => some hide
  | "CHALLENGE" => some challenge
  | _ => none

end Response

/-- How limits in mixed mode act: hidden where the request lists the catalog, challenged where it
addresses the resource itself. -/
inductive MixedBehavior where
  | hide
  | challenge
deriving DecidableEq, Repr

structure Policy where
  level : AccessLevel
  response : Response
  limits : Option Limits

namespace Policy

def hide (limits : Option Limits) : Policy := ⟨.hidden, .hide, limits⟩

def metadata (limits : Option Limits) : Policy := ⟨.metadata, .challenge, limits⟩

def readOnlyChallenge (limits : Option Limits) : Policy := ⟨.readOnly, .challenge, limits⟩

def readOnlyHide (limits : Option Limits) : Policy := ⟨.readOnly, .hide, limits⟩

/-- Full access. The response hides when there are no limits or they are in hide mode. -/
def readWrite (limits : Option Limits) : Policy :=
  match limits.map Limits.mode with
  | none => ⟨.readWrite, .hide, limits⟩
  | some .hide => ⟨.readWrite, .hide, limits⟩
  | some _ => ⟨.readWrite, .challenge, limits⟩

/-- The policy that enforces limits: unreadable resources are hidden or reduced to metadata by
mode, and readable ones that cannot be written are read-only. -/
def ofLimits (limits : Option Limits) (mixed : MixedBehavior) : Policy :=
  match limits with
  | none => readWrite none
  | some l =>
    if !l.canRead then
      match l.mode, mixed with
      | .hide, _ => hide limits
      | .mixed, .hide => hide limits
      | .mixed, .challenge => metadata limits
      | .challenge, _ => metadata limits
    else if !l.canWrite then
      match l.mode with
      | .hide => readOnlyHide limits
      | _ => readOnlyChallenge limits
    else readWrite limits

def derive (p : Policy) (limits : Option Limits) : Policy := { p with limits }

def isHidden (p : Policy) : Bool := p.level == .hidden

def canRead (p : Policy) : Bool := AccessLevel.readOnly.rank ≤ p.level.rank

def canWrite (p : Policy) : Bool := p.level == .readWrite

def mode? (p : Policy) : Option Mode := p.limits.map Limits.mode

/-- The place of a mode in the order; no mode comes last. -/
def modeRank : Option Mode → Nat
  | none => 3
  | some m => m.rank

/-- Order by restrictiveness; the more restrictive policy is the lesser one. -/
def compareRestriction (p q : Policy) : Ordering :=
  (compare p.level.rank q.level.rank).then (compare (modeRank p.mode?) (modeRank q.mode?))

/-- Of two policies the more restrictive one, the first of equals. -/
def tighter (p q : Policy) : Policy :=
  match compareRestriction p q with
  | .gt => q
  | _ => p

/-- The first of the most restrictive policies. -/
def mostRestrictive : List Policy → Option Policy
  | [] => none
  | p :: rest => some (rest.foldl tighter p)

def text (p : Policy) : String :=
  match p.mode? with
  | some m => p.level.text ++ "/" ++ p.response.label ++ "/" ++ m.text
  | none => p.level.text ++ "/" ++ p.response.label

end Policy
end MapGate
