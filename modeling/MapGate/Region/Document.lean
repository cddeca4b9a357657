import MapGate.Number.Binary64
import MapGate.Region.Grid
import MapGate.Region.Overlay

/-!
Regions as documents. A region is written as an object with one member: a rectangle, an empty
region, a list of polygons, or the intersection of two regions. It is shown by its canonical form,
its area and whether it is empty; numbers are texts with six places.
-/
namespace MapGate

namespace Point

/-- A coordinate, as exact as double precision. -/
def coordinate? : Json → Option Rat
  | .number n => (Binary64.ofNumeral? n).map Binary64.toRat
  | _ => none

def ofJson? (j : Json) : Option Point :=
  match j.listOf? coordinate? with
  | some [x, y] => some ⟨x, y⟩
  | _ => none

end Point

def Polygon.ofJson? (j : Json) : Option Polygon :=
  match j.listOf? (Json.listOf? Point.ofJson?) with
  | some [] => some ⟨[], []⟩
  | some (exterior :: holes) => some ⟨Ring.opened exterior, holes.map Ring.opened⟩
  | none => none

namespace Region

def ofJson? : Json → Option Region
  | .object [(some "empty", _)] => some empty
  | .object [(some "rect", corners)] =>
    match corners.listOf? Point.coordinate? with
    | some [x₁, y₁, x₂, y₂] => some (rectangle x₁ y₁ x₂ y₂)
    | _ => none
  | .object [(some "polygons", parts)] => (parts.listOf? Polygon.ofJson?).map Region.mk
  | .object [(some "intersection", .array [a, b])] =>
    match ofJson? a, ofJson? b with
    | some r, some s => some (r.inter s)
    | _, _ => none
  | _ => none

def toJson (r : Region) : Json :=
  let point (p : Point) : Json := .strings [millionthsText p.x.num, millionthsText p.y.num]
  let ring (r : Ring) : Json := .array (r.map point)
  .record [
    ("parts", .array (r.onGrid.parts.map fun part => .array (part.rings.map ring))),
    ("area", .ofString (millionthsText r.areaOnGrid)),
    ("empty", .bool r.isEmpty)]

end Region
end MapGate
