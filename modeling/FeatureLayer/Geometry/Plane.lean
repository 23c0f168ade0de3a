import FeatureLayer.Geometry.Basic
/-!
Exact positions in the plane, and which geometries share one. A geometry is a closed set: the
boundary of a polygon and of its holes belongs to it, the inside of a hole does not.
-/

namespace FeatureLayer

structure Spot where
  x : Rat
  y : Rat
  deriving DecidableEq

def Point.spot? (p : Point) : Option Spot := do some ⟨← p.x.value?, ← p.y.value?⟩

namespace Spot

/-- Twice the signed area of the triangle `a b c`: positive for a left turn, zero on a line. -/
def turn (a b c : Spot) : Rat := (b.x - a.x) * (c.y - a.y) - (b.y - a.y) * (c.x - a.x)

def sign (r : Rat) : Int := if r < 0 then -1 else if 0 < r then 1 else 0

def between (u v w : Rat) : Bool := (u ≤ w && w ≤ v) || (v ≤ w && w ≤ u)

def onSegment (a b p : Spot) : Bool :=
  turn a b p = 0 && between a.x b.x p.x && between a.y b.y p.y

end Spot

structure Segment where
  a : Spot
  b : Spot
  deriving DecidableEq

namespace Segment

def holds (s : Segment) (p : Spot) : Bool := Spot.onSegment s.a s.b p

def meets (s t : Segment) : Bool :=
  s.holds t.a || s.holds t.b || t.holds s.a || t.holds s.b ||
    (Spot.sign (Spot.turn s.a s.b t.a) * Spot.sign (Spot.turn s.a s.b t.b) < 0 &&
      Spot.sign (Spot.turn t.a t.b s.a) * Spot.sign (Spot.turn t.a t.b s.b) < 0)

def ofLine (ps : List Spot) : List Segment := List.zipWith Segment.mk ps ps.tail

end Segment

inductive Side where
  | outside
  | boundary
  | inside
  deriving DecidableEq, Repr

/-- How often an edge winds around `p`: upward edges to its right count one, downward edges less one,
and each edge holds its lower end only. -/
def windingOf (p : Spot) (e : Segment) : Int :=
  if e.a.y ≤ p.y ∧ p.y < e.b.y ∧ 0 < Spot.turn e.a e.b p then 1
  else if e.b.y ≤ p.y ∧ p.y < e.a.y ∧ Spot.turn e.a e.b p < 0 then -1
  else 0

def ringSide (ring : List Spot) (p : Spot) : Side :=
  match ring with
  | [] => .outside
  | [q] => if p = q then .boundary else .outside
  | _ =>
    let edges := Segment.ofLine ring
    if edges.any (·.holds p) then .boundary
    else if (edges.map (windingOf p)).foldl (· + ·) 0 = 0 then .outside else .inside

/-- A ring and the holes cut out of it. The first hole that reaches a position decides on it. -/
structure Area where
  exterior : List Spot
  interiors : List (List Spot)
  deriving DecidableEq

namespace Area

def edges (a : Area) : List Segment := (a.exterior :: a.interiors).flatMap Segment.ofLine

def holds (a : Area) (p : Spot) : Bool :=
  match ringSide a.exterior p with
  | .outside => false
  | .boundary => true
  | .inside => (a.interiors.map (ringSide · p)).find? (· != .outside) != some .inside

def meetsSegment (a : Area) (s : Segment) : Bool :=
  a.edges.any (·.meets s) || a.holds s.a || a.holds s.b

def meets (a b : Area) : Bool := b.edges.any a.meetsSegment || a.edges.any b.meetsSegment

end Area

structure Parts where
  spots : List Spot
  segments : List Segment
  areas : List Area

namespace Parts

def empty : Parts := ⟨[], [], []⟩

def append (p q : Parts) : Parts :=
  ⟨p.spots ++ q.spots, p.segments ++ q.segments, p.areas ++ q.areas⟩

def ofPoint (p : Point) : Parts := ⟨p.spot?.toList, [], []⟩

def ofLine (ps : List Point) : Parts := ⟨[], Segment.ofLine (ps.filterMap (·.spot?)), []⟩

def ofPolygon (p : Polygon) : Parts :=
  ⟨[], [], [⟨p.exterior.filterMap (·.spot?), p.interiors.map (·.filterMap (·.spot?))⟩]⟩

def join (ps : List Parts) : Parts := ps.foldl append empty

def meets (p q : Parts) : Bool :=
  p.spots.any (fun s => q.spots.contains s || q.segments.any (·.holds s) || q.areas.any (·.holds s)) ||
  p.segments.any (fun s =>
    q.spots.any s.holds || q.segments.any s.meets || q.areas.any (·.meetsSegment s)) ||
  p.areas.any fun a =>
    q.spots.any a.holds || q.segments.any a.meetsSegment || q.areas.any a.meets

end Parts

namespace Geometry

/-- A triangle, turned to run counterclockwise. -/
def ofVertices (a b c : Point) : Geometry :=
  match a.spot?, b.spot?, c.spot? with
  | some p, some q, some r => if Spot.turn p q r < 0 then triangle c b a else triangle a b c
  | _, _, _ => triangle a b c

mutual

def parts : Geometry → Parts
  | point p => Parts.ofPoint p
  | segment a b => Parts.ofLine [a, b]
  | line ps => Parts.ofLine ps
  | polygon p => Parts.ofPolygon p
  | multiPoint ps => Parts.join (ps.map Parts.ofPoint)
  | multiLine ls => Parts.join (ls.map Parts.ofLine)
  | multiPolygon ps => Parts.join (ps.map Parts.ofPolygon)
  | rect lo hi => Parts.ofPolygon (rectPolygon lo hi)
  | triangle a b c => Parts.ofPolygon (trianglePolygon a b c)
  | collection gs => partsOfAll gs

def partsOfAll : List Geometry → Parts
  | [] => Parts.empty
  | g :: gs => g.parts.append (partsOfAll gs)

end

def intersects (g h : Geometry) : Bool := g.parts.meets h.parts

end Geometry

end FeatureLayer
