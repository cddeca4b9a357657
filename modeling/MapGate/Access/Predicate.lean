/-!
Filter predicates: two sentinels, opaque expressions, and conjunctions. `and` keeps a
conjunction one level deep; predicates that were read from documents may be of any shape. An
assignment of truth values to expression texts gives every predicate a truth value.
-/
namespace MapGate

inductive Predicate where
  | always
  | never
  | expr (text : String)
  | conj (parts : List Predicate)
deriving Repr, Inhabited

namespace Predicate

mutual

def decEq : (p q : Predicate) → Decidable (p = q)
  | always, always => isTrue rfl
  | never, never => isTrue rfl
  | expr s, expr t =>
    if h : s = t then isTrue (h ▸ rfl) else isFalse (fun e => h (expr.inj e))
  | conj ps, conj qs =>
    match decEqList ps qs with
    | isTrue h => isTrue (h ▸ rfl)
    | isFalse h => isFalse (fun e => h (conj.inj e))
  | always, never | always, expr _ | always, conj _ => isFalse nofun
  | never, always | never, expr _ | never, conj _ => isFalse nofun
  | expr _, always | expr _, never | expr _, conj _ => isFalse nofun
  | conj _, always | conj _, never | conj _, expr _ => isFalse nofun

def decEqList : (ps qs : List Predicate) → Decidable (ps = qs)
  | [], [] => isTrue rfl
  | [], _ :: _ => isFalse nofun
  | _ :: _, [] => isFalse nofun
  | p :: ps, q :: qs =>
    match decEq p q, decEqList ps qs with
    | isTrue h, isTrue hs => isTrue (by rw [h, hs])
    | isFalse h, _ => isFalse (fun e => h (List.cons.inj e).1)
    | _, isFalse hs => isFalse (fun e => hs (List.cons.inj e).2)

end

instance : DecidableEq Predicate := decEq

def isAlways : Predicate → Bool
  | always => true
  | _ => false

def isNever : Predicate → Bool
  | never => true
  | _ => false

/-- The parts a predicate contributes to a conjunction. -/
def parts : Predicate → List Predicate
  | conj ps => ps
  | p => [p]

/-- Conjunction: `never` absorbs, `always` is neutral, and parts are joined in order. -/
def and : Predicate → Predicate → Predicate
  | never, _ => never
  | _, never => never
  | always, q => q
  | p, always => p
  | p, q => conj (p.parts ++ q.parts)

def andAll (ps : List Predicate) : Predicate := ps.foldl and always

mutual

/-- The filter text, each part of a conjunction in parentheses. -/
def text : Predicate → String
  | always => "INCLUDE"
  | never => "EXCLUDE"
  | expr s => s
  | conj ps => joinText ps

def joinText : List Predicate → String
  | [] => ""
  | [p] => "(" ++ text p ++ ")"
  | p :: rest => "(" ++ text p ++ ") AND " ++ joinText rest

end

mutual

/-- Truth under an assignment of truth values to expression texts; a conjunction is true when all
its parts are. -/
def eval (truth : String → Bool) : Predicate → Bool
  | always => true
  | never => false
  | expr s => truth s
  | conj ps => evalAll truth ps

def evalAll (truth : String → Bool) : List Predicate → Bool
  | [] => true
  | p :: rest => eval truth p && evalAll truth rest

end

theorem evalAll_eq_all (truth : String → Bool) (ps : List Predicate) :
    evalAll truth ps = ps.all (eval truth) := by
  induction ps with
  | nil => simp [evalAll]
  | cons p rest ih => simp [evalAll, ih]

end Predicate
end MapGate
