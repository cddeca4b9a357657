import MapGate.Region.Canonical

/-!
Clipping by overlay. Each operand covers the points that its edges enclose an odd number of
times. All edges are cut at all points they share; of the resulting segments the boundary of the
intersection keeps those with the intersection on exactly one side, directed so that it lies on
the left. The boundary is then traced into simple rings: counterclockwise ones are exteriors,
clockwise ones are holes. The polygons are given in canonical form, whatever segment the tracing
began with.
-/
namespace MapGate

/-- A segment between two different points. As a set it starts at the lesser point. -/
structure Segment where
  start : Point
  finish : Point
deriving DecidableEq, Repr

namespace Segment

/-- The segment between two points, directed from the lesser to the greater one. -/
def between? (p q : Point) : Option Segment :=
  if p = q then none else if p.before q then some ⟨p, q⟩ else some ⟨q, p⟩

def reverse (s : Segment) : Segment := ⟨s.finish, s.start⟩

def direction (s : Segment) : Point := s.finish.sub s.start

def midpoint (s : Segment) : Point := ⟨(s.start.x + s.finish.x) / 2, (s.start.y + s.finish.y) / 2⟩

def vertical (s : Segment) : Bool := s.start.x == s.finish.x

/-- Whether a point on the line of `s` lies between its ends. -/
def spans (s : Segment) (p : Point) : Bool := !p.before s.start && !s.finish.before p

/-- The points at which `t` cuts `s`: a common point, or the ends of an overlap. -/
def cuts (s t : Segment) : List Point :=
  let d := s.direction
  let e := t.direction
  let offset := t.start.sub s.start
  let turn := d.cross e
  if turn = 0 then
    if offset.cross d = 0 then [t.start, t.finish].filter s.spans else []
  else
    let along := offset.cross e / turn
    let across := offset.cross d / turn
    if 0 ≤ along ∧ along ≤ 1 ∧ 0 ≤ across ∧ across ≤ 1 then
      [⟨s.start.x + along * d.x, s.start.y + along * d.y⟩]
    else []

def insertPoint (p : Point) : List Point → List Point
  | [] => [p]
  | q :: rest =>
    if p = q then q :: rest
    else if p.before q then p :: q :: rest
    else q :: insertPoint p rest

/-- The pieces of `s` between consecutive cuts by the others. -/
def pieces (others : List Segment) (s : Segment) : List Segment :=
  let points := (others.flatMap s.cuts).foldr insertPoint [s.start, s.finish]
  (points.zip points.tail).map fun (p, q) => ⟨p, q⟩

/-- The members that occur an odd number of times. -/
def oddMembers (segments : List Segment) : List Segment :=
  segments.foldr (fun s kept => if s ∈ kept then kept.erase s else s :: kept) []

/-- Whether a ray upwards from `p` meets `s`; of the two ends only the left one counts. -/
def isAbove (p : Point) (s : Segment) : Bool :=
  s.start.x ≤ p.x && p.x < s.finish.x &&
    0 < (p.sub s.start).cross s.direction

/-- Whether a ray to the right of `p` meets `s`; of the two ends only the lower one counts. -/
def isRight (p : Point) (s : Segment) : Bool :=
  let side := (p.sub s.start).cross s.direction
  if s.start.y ≤ p.y && p.y < s.finish.y then side < 0
  else if s.finish.y ≤ p.y && p.y < s.start.y then 0 < side
  else false

/-- Whether the areas just left and just right of `s` are enclosed by `edges`, of which none meets
`s` other than in its ends, except `s` itself. -/
def sides (edges : List Segment) (s : Segment) : Bool × Bool :=
  let others := edges.erase s
  let member := decide (s ∈ edges)
  let m := s.midpoint
  if s.vertical then
    let right := others.countP (isRight m) % 2 == 1
    (right != member, right)
  else
    let above := others.countP (isAbove m) % 2 == 1
    (above, above != member)

/-- Half turns and less from `back` clockwise to `d`, in three classes. -/
def clockClass (back d : Point) : Nat :=
  let c := back.cross d
  if c < 0 then 0 else if c = 0 then 1 else 2

/-- Whether `d` comes before `e` when turning clockwise from `back`. -/
def clockBefore (back d e : Point) : Bool :=
  let i := clockClass back d
  let j := clockClass back e
  i < j || (i == j && d.cross e < 0)

/-- The candidate that comes first when turning clockwise from `back`. -/
def firstClockwise (back : Point) : List Segment → Option Segment
  | [] => none
  | s :: rest =>
    match firstClockwise back rest with
    | none => some s
    | some best => if clockBefore back best.direction s.direction then some best else some s

end Segment

namespace Overlay

def edges (parts : List Polygon) : List Segment :=
  (parts.flatMap Polygon.rings).flatMap fun ring =>
    ring.steps.filterMap fun (p, q) => Segment.between? p q

/-- The directed boundary of the intersection of two arrangements. -/
def boundary (a b : List Segment) : List Segment :=
  let all := a ++ b
  let as := Segment.oddMembers (a.flatMap (Segment.pieces all))
  let bs := Segment.oddMembers (b.flatMap (Segment.pieces all))
  let candidates := as ++ bs.filter fun s => !as.contains s
  candidates.filterMap fun s =>
    let (leftA, rightA) := Segment.sides as s
    let (leftB, rightB) := Segment.sides bs s
    let left := leftA && leftB
    let right := rightA && rightB
    if left == right then none else if left then some s else some s.reverse

/-- Follows the boundary from `at` until it comes back to `home`. At each point it takes the first
segment clockwise from where it came, which stays with one part of the area. -/
def follow (home : Point) : Nat → Segment → List Segment → List Point × List Segment
  | 0, s, rest => ([s.start], rest)
  | fuel + 1, s, rest =>
    if s.finish = home then ([s.start], rest)
    else
      let leaving := rest.filter fun t => t.start = s.finish
      match Segment.firstClockwise s.reverse.direction leaving with
      | none => ([s.start], rest)
      | some next =>
        let (points, rest) := follow home fuel next (rest.erase next)
        (s.start :: points, rest)

/-- The closed walks a boundary consists of. -/
def walks : Nat → List Segment → List (List Point)
  | 0, _ => []
  | _, [] => []
  | fuel + 1, s :: rest =>
    let (points, rest) := follow s.start rest.length s rest
    points :: walks fuel rest

/-- Cuts a closed walk at the points it visits again. The second argument is the walk so far,
the latest point first. -/
def simpleRings : List Point → List Point → List Ring
  | [], path => [path.reverse]
  | p :: rest, path =>
    if p ∈ path then
      let loop := path.takeWhile (fun q => q ≠ p)
      let stem := path.dropWhile (fun q => q ≠ p)
      (p :: loop.reverse) :: simpleRings rest stem
    else simpleRings rest (p :: path)

def encloses (ring : Ring) (p : Point) : Bool :=
  let segments := ring.steps.filterMap fun (u, v) => Segment.between? u v
  segments.countP (Segment.isAbove p) % 2 == 1

def edgeMidpoint : Ring → Point
  | p :: q :: _ => (Segment.mk p q).midpoint
  | [p] => p
  | [] => ⟨0, 0⟩

/-- The smallest of the exteriors around a hole. -/
def owner? (exteriors : List Ring) (hole : Ring) : Option Ring :=
  let around := exteriors.filter fun ring => encloses ring (edgeMidpoint hole)
  around.foldl (fun best ring =>
    match best with
    | none => some ring
    | some least => if ring.doubleArea < least.doubleArea then some ring else some least) none

/-- The polygons a boundary bounds. -/
def polygons (segments : List Segment) : List Polygon :=
  let rings := (walks segments.length segments).flatMap fun walk => simpleRings walk []
  let exteriors := rings.filter fun ring => 0 < ring.doubleArea
  let holes := rings.filter fun ring => ring.doubleArea < 0
  exteriors.map fun ring =>
    Polygon.mk ring (holes.filter fun hole => owner? exteriors hole = some ring)

def clip (a b : List Polygon) : List Polygon :=
  (Region.canonical ⟨polygons (boundary (edges a) (edges b))⟩).parts

end Overlay

instance : Clipping := ⟨Overlay.clip⟩

end MapGate
