import MapGate.Region.Basic

/-!
The canonical form of polygons. A ring has no vertex on a straight line between its neighbours, runs
counterclockwise and starts at its least vertex; holes and parts are in order.
-/
namespace MapGate

def insertInOrder {α : Type} (before : α → α → Bool) (a : α) : List α → List α
  | [] => [a]
  | b :: rest =>
    if before b a then b :: insertInOrder before a rest else a :: b :: rest

/-- Sorts by insertion, which unlike `List.mergeSort` evaluates in the kernel. -/
def inOrder {α : Type} (before : α → α → Bool) (list : List α) : List α :=
  list.foldr (insertInOrder before) []

namespace Ring

/-- The place of the first vertex on a line with both its neighbours. -/
def straight? (ring : Ring) : Option Nat :=
  match ring.getLast? with
  | none => none
  | some last =>
    ((last :: ring).zip ring.steps).findIdx? fun (p, q, r) => (q.sub p).cross (r.sub q) == 0

/-- Drops vertices on straight lines, one at a time, while more than two are left. -/
def straighten : Nat → Ring → Ring
  | 0, ring => ring
  | fuel + 1, ring =>
    if ring.length ≤ 2 then ring
    else match straight? ring with
      | some i => straighten fuel (ring.eraseIdx i)
      | none => ring

/-- The same cycle from its least vertex on. -/
def fromLeast : Ring → Ring
  | [] => []
  | first :: rest =>
    let least := rest.foldl (fun least p => if p.before least then p else least) first
    (first :: rest).dropWhile (· ≠ least) ++ (first :: rest).takeWhile (· ≠ least)

def canonical (ring : Ring) : Ring :=
  let ring := straighten ring.length ring
  fromLeast (if ring.doubleArea < 0 then ring.reverse else ring)

def before (r s : Ring) : Bool := List.lex r s Point.before

end Ring

namespace Polygon

def canonical (p : Polygon) : Polygon :=
  ⟨p.exterior.canonical, inOrder Ring.before (p.holes.map Ring.canonical)⟩

def before (p q : Polygon) : Bool := List.lex p.rings q.rings Ring.before

end Polygon

def Region.canonical (r : Region) : Region :=
  ⟨inOrder Polygon.before (r.parts.map Polygon.canonical)⟩

end MapGate
