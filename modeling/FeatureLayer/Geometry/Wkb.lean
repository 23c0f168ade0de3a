import FeatureLayer.Geometry.Basic
/-!
The binary form of geometries. Writing keeps the two planar coordinates; reading also takes the
forms with further dimensions or a reference system number, and drops both.
-/

namespace FeatureLayer

inductive ByteOrder where
  | leastFirst
  | mostFirst
  deriving DecidableEq, Repr

namespace Wkb

def natBytes (order : ByteOrder) (size n : Nat) : List UInt8 :=
  let bytes := (List.range size).map fun i => UInt8.ofNat (n / Nat.pow 256 i % 256)
  match order with
  | .leastFirst => bytes
  | .mostFirst => bytes.reverse

def ofBytes (order : ByteOrder) (bytes : List UInt8) : Nat :=
  let most := match order with
    | .leastFirst => bytes.reverse
    | .mostFirst => bytes
  most.foldl (fun n b => 256 * n + b.toNat) 0

def orderByte : ByteOrder → UInt8
  | .leastFirst => 1
  | .mostFirst => 0

def countBytes (order : ByteOrder) (n : Nat) : List UInt8 := natBytes order 4 n

def positionBytes (order : ByteOrder) (p : Point) : List UInt8 :=
  natBytes order 8 p.x.bits ++ natBytes order 8 p.y.bits

def positionsBytes (order : ByteOrder) (ps : List Point) : List UInt8 :=
  ps.flatMap (positionBytes order)

def lineBytes (order : ByteOrder) (ps : List Point) : List UInt8 :=
  countBytes order ps.length ++ positionsBytes order ps

def header (order : ByteOrder) (kind : Nat) : List UInt8 :=
  orderByte order :: countBytes order kind

def polygonBytes (order : ByteOrder) (p : Polygon) : List UInt8 :=
  let rings := if p.exterior.isEmpty then p.interiors else p.rings
  countBytes order (if p.exterior.isEmpty then 0 else rings.length) ++
    rings.flatMap (lineBytes order)

/-- A rectangle's ring is written without the count of its points. -/
def rectBytes (order : ByteOrder) (lo hi : Point) : List UInt8 :=
  countBytes order 1 ++ positionsBytes order [lo, ⟨lo.x, hi.y⟩, hi, ⟨hi.x, lo.y⟩, lo]

def parts {α : Type} (order : ByteOrder) (kind : Nat) (body : α → List UInt8) (as : List α) :
    List UInt8 :=
  countBytes order as.length ++ as.flatMap fun a => header order kind ++ body a

mutual

def bytes (order : ByteOrder) : Geometry → List UInt8
  | .point p => header order 1 ++ positionBytes order p
  | .segment a b => header order 2 ++ lineBytes order [a, b]
  | .line ps => header order 2 ++ lineBytes order ps
  | .polygon p => header order 3 ++ polygonBytes order p
  | .multiPoint ps => header order 4 ++ parts order 1 (positionBytes order) ps
  | .multiLine ls => header order 5 ++ parts order 2 (lineBytes order) ls
  | .multiPolygon ps => header order 6 ++ parts order 3 (polygonBytes order) ps
  | .rect lo hi => header order 3 ++ rectBytes order lo hi
  | .triangle a b c => header order 3 ++ polygonBytes order (Geometry.trianglePolygon a b c)
  | .collection gs => header order 7 ++ (countBytes order gs.length ++ bytesOfAll order gs)

def bytesOfAll (order : ByteOrder) : List Geometry → List UInt8
  | [] => []
  | g :: gs => bytes order g ++ bytesOfAll order gs

end

abbrev Reader (α : Type) := List UInt8 → Option (α × List UInt8)

def number (order : ByteOrder) (size : Nat) : Reader Nat := fun bs =>
  if (bs.take size).length = size then some (ofBytes order (bs.take size), bs.drop size) else none

def double (order : ByteOrder) : Reader Double := fun bs =>
  (number order 8 bs).map fun r => (Binary.ofBits r.1, r.2)

def many {α : Type} (part : Reader α) : (count : Nat) → Reader (List α)
  | 0, bs => some ([], bs)
  | count + 1, bs => do
    let (a, bs) ← part bs
    let (as, bs) ← many part count bs
    some (a :: as, bs)

def counted {α : Type} (order : ByteOrder) (part : Reader α) : Reader (List α) := fun bs => do
  let (n, bs) ← number order 4 bs
  many part n bs

/-- A position, with `extra` further coordinates that are dropped. -/
def position (order : ByteOrder) (extra : Nat) : Reader Point := fun bs => do
  let (x, bs) ← double order bs
  let (y, bs) ← double order bs
  let (_, bs) ← many (double order) extra bs
  some (⟨x, y⟩, bs)

/-- A position that is there: not every coordinate of it may be NaN. -/
def presentPosition (order : ByteOrder) (extra : Nat) : Reader Point := fun bs => do
  let (cs, bs) ← many (double order) (2 + extra) bs
  match cs with
  | x :: y :: _ => if cs.all (·.isNaN) then none else some (⟨x, y⟩, bs)
  | _ => none

def line (order : ByteOrder) (extra : Nat) : Reader (List Point) := counted order (position order extra)

def polygon (order : ByteOrder) (extra : Nat) : Reader Polygon := fun bs =>
  (counted order (line order extra) bs).map fun r => (.ofRings r.1, r.2)

def order : Reader ByteOrder
  | 0 :: bs => some (.mostFirst, bs)
  | 1 :: bs => some (.leastFirst, bs)
  | _ => none

def hasReference (code : Nat) : Bool := code / Nat.pow 2 29 % 2 = 1

/-- Further coordinates that a kind code announces, by thousands or by flags. -/
def extraOf (code : Nat) : Nat :=
  match code / 1000 with
  | 1 | 2 => 1
  | 3 => 2
  | _ => code / Nat.pow 2 31 % 2 + code / Nat.pow 2 30 % 2

def kindCode (order : ByteOrder) : Reader Nat := fun bs => do
  let (code, bs) ← number order 4 bs
  if hasReference code then
    let (_, bs) ← number order 4 bs
    some (code, bs)
  else some (code, bs)

def members {α : Type} (order : ByteOrder) (part : Reader α) : Reader (List α) :=
  counted order fun bs =>
    match bs with
    | [] => none
    | _ :: bs => do
      let (_, bs) ← kindCode order bs
      part bs

/-- A geometry with collections nested at most `depth` deep. -/
def geometry : (depth : Nat) → Reader Geometry := fun depth bs => do
  let (order, bs) ← order bs
  let (code, bs) ← kindCode order bs
  let extra := extraOf code
  let as {α : Type} (make : α → Geometry) (r : Option (α × List UInt8)) :=
    r.map fun r => (make r.1, r.2)
  match code % 8, depth with
  | 1, _ => as .point (presentPosition order extra bs)
  | 2, _ => as .line (line order extra bs)
  | 3, _ => as .polygon (polygon order extra bs)
  | 4, _ => as .multiPoint (members order (presentPosition order extra) bs)
  | 5, _ => as .multiLine (members order (line order extra) bs)
  | 6, _ => as .multiPolygon (members order (polygon order extra) bs)
  | 7, depth + 1 => as .collection (counted order (geometry depth) bs)
  | _, _ => none

def maxDepth : Nat := 128

end Wkb

namespace Geometry

def ofWkb? (bs : List UInt8) : Option Geometry := (Wkb.geometry Wkb.maxDepth bs).map (·.1)

def toWkb (g : Geometry) (order : ByteOrder) : List UInt8 := Wkb.bytes order g

def wkbSize (g : Geometry) : Nat := (g.toWkb .leastFirst).length

end Geometry

end FeatureLayer
