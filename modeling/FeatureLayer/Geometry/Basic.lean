import FeatureLayer.Number.Decimal
import FeatureLayer.Text.Character

namespace FeatureLayer

structure Point where
  x : Double
  y : Double
  deriving DecidableEq

namespace Point

def same (p q : Point) : Bool := p.x.same q.x && p.y.same q.y

end Point

/-- Rings are closed: the last point repeats the first. -/
structure Polygon where
  exterior : List Point
  interiors : List (List Point)
  deriving DecidableEq

def closeRing (ps : List Point) : List Point :=
  match ps.head?, ps.getLast? with
  | some first, some last => if first.same last then ps else ps ++ [first]
  | _, _ => ps

namespace Polygon

def ofRings : List (List Point) → Polygon
  | [] => ⟨[], []⟩
  | r :: rs => ⟨closeRing r, rs.map closeRing⟩

def rings (p : Polygon) : List (List Point) := p.exterior :: p.interiors

def points (p : Polygon) : List Point := p.rings.flatten

end Polygon

inductive Geometry where
  | point (p : Point)
  | segment (a b : Point)
  | line (ps : List Point)
  | polygon (p : Polygon)
  | multiPoint (ps : List Point)
  | multiLine (ls : List (List Point))
  | multiPolygon (ps : List Polygon)
  /-- Least and greatest corner. -/
  | rect (lo hi : Point)
  | triangle (a b c : Point)
  | collection (gs : List Geometry)

structure Envelope where
  minX : Double
  minY : Double
  maxX : Double
  maxY : Double
  deriving DecidableEq

namespace Envelope

def zero : Envelope := ⟨Binary.zero, Binary.zero, Binary.zero, Binary.zero⟩

instance : Inhabited Envelope := ⟨zero⟩

def isValid (e : Envelope) : Bool :=
  e.minX.isFinite && e.minY.isFinite && e.maxX.isFinite && e.maxY.isFinite &&
    e.minX.le e.maxX && e.minY.le e.maxY

def intersects (a b : Envelope) : Bool :=
  a.minX.le b.maxX && b.minX.le a.maxX && a.minY.le b.maxY && b.minY.le a.maxY

def ofCorners (p q : Point) : Envelope :=
  let (minX, maxX) := if p.x.lt q.x then (p.x, q.x) else (q.x, p.x)
  let (minY, maxY) := if p.y.lt q.y then (p.y, q.y) else (q.y, p.y)
  ⟨minX, minY, maxX, maxY⟩

def lo (e : Envelope) : Point := ⟨e.minX, e.minY⟩

def hi (e : Envelope) : Point := ⟨e.maxX, e.maxY⟩

def widen (range : Double × Double) (v : Double) : Double × Double :=
  if range.2.lt v then (range.1, v) else if v.lt range.1 then (v, range.2) else range

def ofPoints? : List Point → Option Envelope
  | [] => none
  | p :: ps =>
    let xs := ps.foldl (fun r q => widen r q.x) (p.x, p.x)
    let ys := ps.foldl (fun r q => widen r q.y) (p.y, p.y)
    some (ofCorners ⟨xs.1, ys.1⟩ ⟨xs.2, ys.2⟩)

def join (a b : Envelope) : Envelope :=
  let least (u v : Double) := if u.lt v then u else v
  let greatest (u v : Double) := if v.lt u then u else v
  ofCorners ⟨least a.minX b.minX, least a.minY b.minY⟩
    ⟨greatest a.maxX b.maxX, greatest a.maxY b.maxY⟩

end Envelope

namespace Geometry

instance : Inhabited Geometry := ⟨collection []⟩

def ofCorners (p q : Point) : Geometry :=
  let e := Envelope.ofCorners p q
  rect e.lo e.hi

def rectPolygon (lo hi : Point) : Polygon :=
  ⟨[⟨hi.x, lo.y⟩, hi, ⟨lo.x, hi.y⟩, lo, ⟨hi.x, lo.y⟩], []⟩

def trianglePolygon (a b c : Point) : Polygon := ⟨[a, b, c, a], []⟩

def name : Geometry → String
  | point _ => "POINT"
  | segment _ _ | line _ => "LINESTRING"
  | polygon _ | rect _ _ | triangle _ _ _ => "POLYGON"
  | multiPoint _ => "MULTIPOINT"
  | multiLine _ => "MULTILINESTRING"
  | multiPolygon _ => "MULTIPOLYGON"
  | collection _ => "GEOMETRYCOLLECTION"

mutual

def points : Geometry → List Point
  | point p => [p]
  | segment a b => [a, b]
  | line ps => ps
  | polygon p => p.points
  | multiPoint ps => ps
  | multiLine ls => ls.flatten
  | multiPolygon ps => ps.flatMap (·.points)
  | rect lo hi => [lo, ⟨lo.x, hi.y⟩, hi, ⟨hi.x, lo.y⟩]
  | triangle a b c => [a, b, c]
  | collection gs => pointsOfAll gs

def pointsOfAll : List Geometry → List Point
  | [] => []
  | g :: gs => g.points ++ pointsOfAll gs

end

def isEmpty (g : Geometry) : Bool := g.points.isEmpty

def summary (g : Geometry) : String :=
  let parts (n : Nat) := s!"{g.name} : {n} geometries, {g.points.length} points"
  match g with
  | point _ => g.name
  | polygon p => s!"{g.name} : {p.rings.length} rings, {g.points.length} points"
  | multiPoint ps => parts ps.length
  | multiLine ls => parts ls.length
  | multiPolygon ps => parts ps.length
  | collection gs => parts gs.length
  | _ => s!"{g.name} : {g.points.length} points"

mutual

/-- The extent; holes of a polygon do not count. None when there is nothing to hold. -/
def bounds? : Geometry → Option Envelope
  | point p => some (Envelope.ofCorners p p)
  | segment a b => some (Envelope.ofCorners a b)
  | line ps => Envelope.ofPoints? ps
  | polygon p => Envelope.ofPoints? p.exterior
  | multiPoint ps => Envelope.ofPoints? ps
  | multiLine ls => Envelope.ofPoints? ls.flatten
  | multiPolygon ps => Envelope.ofPoints? (ps.flatMap (·.exterior))
  | rect lo hi => some ⟨lo.x, lo.y, hi.x, hi.y⟩
  | triangle a b c => Envelope.ofPoints? [a, b, c]
  | collection gs => boundsOfAll none gs

def boundsOfAll (seen : Option Envelope) : List Geometry → Option Envelope
  | [] => seen
  | g :: gs =>
    boundsOfAll (match seen, g.bounds? with
      | some a, some b => some (a.join b)
      | some a, none => some a
      | none, b => b) gs

end

def envelope (g : Geometry) : Envelope := g.bounds?.getD Envelope.zero

def toMulti : Geometry → Geometry
  | point p => multiPoint [p]
  | segment a b => multiLine [[a, b]]
  | line ps => multiLine [ps]
  | polygon p => multiPolygon [p]
  | rect lo hi => multiPolygon [rectPolygon lo hi]
  | triangle a b c => multiPolygon [trianglePolygon a b c]
  | g => g

/-- The polygons that make up the geometry; none when other parts would be lost. -/
def toPolygons? : Geometry → Option (List Polygon)
  | polygon p => some [p]
  | multiPolygon ps => some ps
  | rect lo hi => some [rectPolygon lo hi]
  | triangle a b c => some [trianglePolygon a b c]
  | collection [] => some []
  | _ => none

end Geometry

end FeatureLayer
