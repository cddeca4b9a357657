import MapGate.Region.Canonical
import MapGate.Text.Digit

/-!
Regions as they are printed: with vertices and area on a grid of a millionth.
-/
namespace MapGate

/-- The nearest integer; a half goes away from zero. -/
def roundHalfAway (q : Rat) : Int :=
  if 0 ≤ q then (q + 1 / 2).floor else -((-q + 1 / 2).floor)

/-- The nearest integer; a half goes to the even neighbour. -/
def roundHalfEven (q : Rat) : Int :=
  let below := q.floor
  let rest := q - below
  if rest < 1 / 2 then below
  else if 1 / 2 < rest then below + 1
  else if below % 2 = 0 then below else below + 1

/-- A number of millionths as a decimal with six places. -/
def millionthsText (n : Int) : String :=
  let digits := Text.padZeros 7 (toString n.natAbs).toList
  (if n < 0 then "-" else "") ++ String.ofList (digits.take (digits.length - 6)) ++ "." ++
    String.ofList (digits.drop (digits.length - 6))

/-- The nearest point of the grid, in millionths. -/
def Point.onGrid (p : Point) : Point :=
  ⟨roundHalfAway (p.x * 1000000), roundHalfAway (p.y * 1000000)⟩

namespace Region

/-- The canonical form on the grid, with coordinates in millionths. -/
def onGrid (r : Region) : Region :=
  canonical ⟨r.parts.map fun p =>
    ⟨p.exterior.map Point.onGrid, p.holes.map fun hole => hole.map Point.onGrid⟩⟩

def areaOnGrid (r : Region) : Int := roundHalfEven (r.area * 1000000)

end Region
end MapGate
