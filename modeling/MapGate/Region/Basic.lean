/-!
Regions of interest: finite unions of polygons with exact rational coordinates. A ring is the list
of its vertices, the last one joined to the first. A region keeps its polygons as they were given,
also degenerate or self-crossing ones. The algorithm that intersects polygons is a parameter.
-/
namespace MapGate

structure Point where
  x : Rat
  y : Rat
deriving DecidableEq, Repr

namespace Point

/-- Twice the signed area of the triangle from the origin over `p` and `q`. -/
def cross (p q : Point) : Rat := p.x * q.y - p.y * q.x

def sub (p q : Point) : Point := ⟨p.x - q.x, p.y - q.y⟩

/-- Order from left to right, then upwards. -/
def before (p q : Point) : Bool := p.x < q.x || (p.x == q.x && p.y < q.y)

end Point

def total {α : Type} (quantity : α → Rat) : List α → Rat
  | [] => 0
  | a :: rest => quantity a + total quantity rest

abbrev Ring := List Point

namespace Ring

/-- The vertices without a last one that repeats the first. -/
def opened (ring : Ring) : Ring :=
  match ring with
  | first :: second :: rest =>
    if (second :: rest).getLast? = some first then ring.dropLast else ring
  | _ => ring

def steps : Ring → List (Point × Point)
  | [] => []
  | first :: rest => (first :: rest).zip (rest ++ [first])

/-- Twice the area, positive for a ring that runs counterclockwise. -/
def doubleArea (ring : Ring) : Rat := total (fun (p, q) => p.cross q) (steps ring)

/-- The enclosed area, whichever way the ring runs. -/
def area (ring : Ring) : Rat := (doubleArea ring).abs / 2

end Ring

structure Polygon where
  exterior : Ring
  holes : List Ring
deriving DecidableEq, Repr

namespace Polygon

def rings (p : Polygon) : List Ring := p.exterior :: p.holes

/-- The area of the exterior less those of the holes, as a magnitude. -/
def area (p : Polygon) : Rat := (p.exterior.area - total Ring.area p.holes).abs

end Polygon

/-- An algorithm that makes the polygons of the common area of two lists of polygons. -/
class Clipping where
  clip : List Polygon → List Polygon → List Polygon

structure Region where
  parts : List Polygon
deriving DecidableEq, Repr

namespace Region

def empty : Region := ⟨[]⟩

def ordered (a b : Rat) : Rat × Rat := if b < a then (b, a) else (a, b)

/-- The axis-parallel rectangle over two opposite corners, in either order. -/
def rectangle (x₁ y₁ x₂ y₂ : Rat) : Region :=
  let (left, right) := ordered x₁ x₂
  let (bottom, top) := ordered y₁ y₂
  ⟨[⟨[⟨right, bottom⟩, ⟨right, top⟩, ⟨left, top⟩, ⟨left, bottom⟩], []⟩]⟩

def area (r : Region) : Rat := total Polygon.area r.parts

/-- A region is empty when it covers no area. -/
def isEmpty (r : Region) : Bool := r.parts.isEmpty || r.area == 0

/-- The common area of two regions. Polygons without area are left out. -/
def inter [Clipping] (r s : Region) : Region :=
  ⟨(Clipping.clip r.parts s.parts).filter fun p => 0 < p.area⟩

end Region
end MapGate
