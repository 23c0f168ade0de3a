import FeatureLayer.Geometry.Region
/-!
A normal form of polygons: two polygons that cover the same region, to six decimals, have the same
one.
-/

namespace FeatureLayer

/-- Rings without the closing position, each polygon with its exterior first. -/
inductive NormalForm where
  | polygon (rings : List (List Point))
  | multiPolygon (polygons : List (List (List Point)))
  deriving DecidableEq

namespace NormalForm

def millionths (v : Double) : Rat := (v * Binary.ofInt 1000000).round.value?.getD 0

def spotOf (p : Point) : Spot := ⟨millionths p.x, millionths p.y⟩

def pointOf (s : Spot) : Point :=
  let v (r : Rat) : Double := Binary.ofRat r / Binary.ofInt 1000000 + Binary.zero
  ⟨v s.x, v s.y⟩

def dropRepeats : List Spot → List Spot
  | p :: q :: rest => if p = q then dropRepeats (q :: rest) else p :: dropRepeats (q :: rest)
  | ps => ps

def opened (ring : List Spot) : List Spot :=
  if ring.length > 1 ∧ ring.head? = ring.getLast? then ring.dropLast else ring

def ringForm (counterclockwise : Bool) (ps : List Point) : List Spot :=
  let ring := straighten (opened (dropRepeats (ps.map spotOf)))
  fromLeast (if (0 < doubleArea ring) = counterclockwise then ring else ring.reverse)

def polygonForm (p : Polygon) : List (List Spot) :=
  ringForm true p.exterior ::
    (p.interiors.map (ringForm false)).mergeSort fun r s => !ringBefore s r

def polygonBefore (p q : List (List Spot)) : Bool := ringBefore (p.headD []) (q.headD [])

def points (p : List (List Spot)) : List (List Point) := p.map (·.map pointOf)

end NormalForm

/-- The normal form of a polygon or of several; none for other geometries. -/
def Geometry.normalForm? : Geometry → Option NormalForm
  | .polygon p => some (.polygon (NormalForm.points (NormalForm.polygonForm p)))
  | .multiPolygon ps =>
    let forms := (ps.map NormalForm.polygonForm).mergeSort fun p q => !NormalForm.polygonBefore q p
    some (.multiPolygon (forms.map NormalForm.points))
  | _ => none

end FeatureLayer
