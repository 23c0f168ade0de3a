import FeatureLayer.Geometry.Plane
/-!
Set operations on regions of the plane. The edges of both operands are cut where they meet, so that
no two pieces cross; a piece bounds the result when just one side of it lies in the result, and the
bounding pieces are joined to rings. All positions are exact.
-/

namespace FeatureLayer

/-- A region of the plane, as areas that do not overlap. Inside is what an odd number of its rings
go around. -/
structure Region where
  areas : List Area
  deriving DecidableEq

namespace Spot

def before (p q : Spot) : Bool := p.x < q.x || (p.x = q.x && p.y < q.y)

def middle (p q : Spot) : Spot := ⟨(p.x + q.x) / 2, (p.y + q.y) / 2⟩

def place (p : Spot) : List Spot → List Spot
  | [] => [p]
  | q :: qs => if p = q then q :: qs else if p.before q then p :: q :: qs else q :: place p qs

end Spot

namespace Segment

/-- The positions where `t` ends on or crosses `s`. -/
def cuts (s t : Segment) : List Spot :=
  let dx := s.b.x - s.a.x
  let dy := s.b.y - s.a.y
  let ex := t.b.x - t.a.x
  let ey := t.b.y - t.a.y
  let slant := dx * ey - dy * ex
  if slant = 0 then [t.a, t.b].filter s.holds
  else
    let k := ((t.a.x - s.a.x) * ey - (t.a.y - s.a.y) * ex) / slant
    let p : Spot := ⟨s.a.x + k * dx, s.a.y + k * dy⟩
    if s.holds p && t.holds p then [p] else []

/-- The pieces of `s` between its cuts, each from its lesser end to its greater. -/
def pieces (others : List Segment) (s : Segment) : List Segment :=
  ofLine ((others.flatMap s.cuts).foldl (fun ps p => p.place ps) (s.a.place [s.b]))

/-- Whether a ray from `p`, upward or to the right, crosses the piece `s`. -/
def shades (s : Segment) (upward : Bool) (p : Spot) : Bool :=
  if upward then s.a.x ≤ p.x && p.x < s.b.x && Spot.turn s.a s.b p < 0
  else
    let (lo, hi) := if s.a.y ≤ s.b.y then (s.a, s.b) else (s.b, s.a)
    lo.y ≤ p.y && p.y < hi.y && 0 < Spot.turn lo hi p

/-- Whether the region bounded by `pieces` lies before and beyond the piece `s`, seen along a ray
that leaves its middle upward or, from a vertical piece, to the right. -/
def sides (pieces : List Segment) (s : Segment) : Bool × Bool :=
  let upward := s.a.x != s.b.x
  let beyond := (pieces.countP (·.shades upward (s.a.middle s.b))) % 2 = 1
  let changes := pieces.count s % 2 = 1
  (beyond != changes, beyond)

end Segment

/-- The rest of a ring that came to `here` from `back`: of the pieces that leave from there the one
that turns left most comes next. -/
def follow (start : Spot) : (fuel : Nat) → (back here : Spot) → List Segment → List Spot × List Segment
  | 0, _, _, left => ([], left)
  | fuel + 1, back, here, left =>
    if here = start then ([], left) else
      let leaving := left.filter (·.a = here)
      -- the turn from `back` to a piece: pieces to the left of the way come before pieces ahead,
      -- and these before pieces to the right
      let rank (s : Segment) : Int :=
        let t := Spot.sign (Spot.turn back here s.b)
        if t ≠ 0 then -t
        else if 0 ≤ (here.x - back.x) * (s.b.x - here.x) + (here.y - back.y) * (s.b.y - here.y) then 0
        else 2
      let sooner (s t : Segment) : Bool :=
        rank s < rank t || (rank s = rank t && 0 < Spot.turn here t.b s.b)
      match leaving with
      | [] => ([], left)
      | s :: rest =>
        let next := rest.foldl (fun best t => if sooner t best then t else best) s
        let (ring, left) := follow start fuel here next.b (left.erase next)
        (here :: ring, left)

def joinRings : (fuel : Nat) → List Segment → List (List Spot)
  | 0, _ | _, [] => []
  | fuel + 1, s :: left =>
    let (ring, left) := follow s.a (left.length + 1) s.a s.b left
    (s.a :: ring) :: joinRings fuel left

def straighten (ring : List Spot) : List Spot :=
  match ring.getLast?, ring.head? with
  | some last, some first =>
    let before := last :: ring
    let after := ring.tail ++ [first]
    (List.zip (List.zip before ring) after).filterMap fun ((p, q), r) =>
      if Spot.turn p q r = 0 then none else some q
  | _, _ => ring

def doubleArea (ring : List Spot) : Rat :=
  match ring with
  | [] => 0
  | o :: _ => ((Segment.ofLine ring).map fun s => Spot.turn o s.a s.b).foldl (· + ·) 0

def close (ring : List Spot) : List Spot := ring ++ ring.head?.toList

def fromLeast (ring : List Spot) : List Spot :=
  match ring with
  | [] => []
  | p :: ps =>
    let least := ps.foldl (fun m q => if q.before m then q else m) p
    ring.dropWhile (· ≠ least) ++ ring.takeWhile (· ≠ least)

def ringBefore : List Spot → List Spot → Bool
  | _, [] => false
  | [], _ :: _ => true
  | p :: ps, q :: qs => if p = q then ringBefore ps qs else p.before q

/-- A boundary that keeps the region on its left, as it is written: turned, and with no position on
the line through its neighbours. An exterior starts at its least position, a hole one cut piece
before. -/
def written (ring : List Spot) : List Spot :=
  let turned := fromLeast ring.reverse
  straighten (if 0 < doubleArea ring then turned else turned.getLast?.toList ++ turned.dropLast)

namespace Region

def empty : Region := ⟨[]⟩

instance : Inhabited Region := ⟨empty⟩

def edges (r : Region) : List Segment := (r.areas.flatMap (·.edges)).filter fun s => s.a ≠ s.b

/-- Sorts boundaries that keep the region on their left into exteriors and the holes of each, those
with the least positions first. A hole belongs to the least exterior around it. -/
def ofRings (rings : List (List Spot)) : Region :=
  let rings := rings.mergeSort fun r s => !ringBefore (fromLeast s) (fromLeast r)
  let outer := rings.filter fun r => 0 < doubleArea r
  let holes := rings.filter fun r => doubleArea r < 0
  let around (hole : List Spot) : Option (List Spot) :=
    match hole with
    | p :: q :: _ =>
      let holding := outer.filter fun r => ringSide (close r) (p.middle q) = .inside
      holding.foldl (fun best r => match best with
        | none => some r
        | some b => if doubleArea r < doubleArea b then some r else some b) none
    | _ => none
  let owned := holes.map fun h => (around h, h)
  ⟨outer.map fun r =>
    ⟨close (written r), (owned.filter (·.1 = some r)).map fun h => close (written h.2)⟩⟩

/-- The region of all positions where `rule` holds of being inside `r` and inside `s`. -/
def combine (rule : Bool → Bool → Bool) (r s : Region) : Region :=
  let all := r.edges ++ s.edges
  let left := r.edges.flatMap (·.pieces all)
  let right := s.edges.flatMap (·.pieces all)
  let bounding := (left ++ right).eraseDups.filterMap fun p =>
    let (a, b) := p.sides left
    let (c, d) := p.sides right
    match rule a c, rule b d with
    | false, true => some (if p.a.x = p.b.x then ⟨p.b, p.a⟩ else p)
    | true, false => some (if p.a.x = p.b.x then p else ⟨p.b, p.a⟩)
    | _, _ => none
  ofRings (joinRings bounding.length bounding)

def union (r s : Region) : Region := combine (· || ·) r s

def inter (r s : Region) : Region := combine (· && ·) r s

def diff (r s : Region) : Region := combine (fun a b => a && !b) r s

def ofPolygons (ps : List Polygon) : Region :=
  ⟨ps.map fun p => ⟨p.exterior.filterMap (·.spot?), p.interiors.map (·.filterMap (·.spot?))⟩⟩

def toPoint (p : Spot) : Point := ⟨Binary.ofRat p.x, Binary.ofRat p.y⟩

def toPolygons (r : Region) : List Polygon :=
  r.areas.map fun a => ⟨a.exterior.map toPoint, a.interiors.map (·.map toPoint)⟩

end Region

end FeatureLayer
