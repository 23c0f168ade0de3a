import FeatureLayer.Geometry.Basic
/-!
The text form of geometries. Reading takes the geometry at the start of a text and leaves the rest
alone; further dimensions are read and dropped.
-/

namespace FeatureLayer.Wkt

inductive Token where
  | opening
  | closing
  | comma
  | number (v : Double)
  /-- Starts like a number but is none. -/
  | badNumber
  | word (w : String)
  deriving DecidableEq

def isBlank (c : Char) : Bool := c = ' ' || c = '\t' || c = '\n' || c = '\r'

/-- The token of a run of characters. Plus signs before a number say nothing. -/
def tokenOf : List Char → Token
  | [] => .badNumber
  | c :: cs =>
    if c.isDigit || c = '.' || c = '-' || c = '+' then
      match Binary.parse? ((c :: cs).dropWhile (· = '+')) with
      | some v => .number v
      | none => .badNumber
    else .word (.ofList (c :: cs))

def flush (run : List Char) (rest : List Token) : List Token :=
  if run.isEmpty then rest else tokenOf run.reverse :: rest

def tokens (run : List Char) : List Char → List Token
  | [] => flush run []
  | c :: cs =>
    if c.toNat = 0 then flush run []
    else if isBlank c then flush run (tokens [] cs)
    else if c = '(' then flush run (.opening :: tokens [] cs)
    else if c = ')' then flush run (.closing :: tokens [] cs)
    else if c = ',' then flush run (.comma :: tokens [] cs)
    else tokens (c :: run) cs

abbrev Reader (α : Type) := List Token → Option (α × List Token)

def dimensionWord (w : String) : Option Nat :=
  if Text.sameWord w "Z" || Text.sameWord w "M" then some 1
  else if Text.sameWord w "ZM" then some 2
  else none

def isEmptyWord (w : String) : Bool := Text.sameWord w "EMPTY"

def dropNumbers : Nat → List Token → Option (List Token)
  | 0, ts => some ts
  | n + 1, .number _ :: ts => dropNumbers n ts
  | _ + 1, _ => none

def position (extra : Nat) : Reader Point
  | .number x :: .number y :: ts => (dropNumbers extra ts).map fun rest => (⟨x, y⟩, rest)
  | _ => none

def separated {α : Type} (part : Reader α) : (fuel : Nat) → Reader (List α)
  | 0, _ => none
  | fuel + 1, ts =>
    match part ts with
    | none => none
    | some (a, .comma :: rest) => (separated part fuel rest).map fun r => (a :: r.1, r.2)
    | some (a, rest) => some ([a], rest)

def list {α : Type} (part : Reader α) : Reader (List α) := fun ts => separated part ts.length ts

def enclosed {α : Type} (empty : α) (part : Reader α) : Reader α
  | .opening :: ts =>
    match part ts with
    | some (a, .closing :: rest) => some (a, rest)
    | _ => none
  | .word w :: ts => if isEmptyWord w then some (empty, ts) else none
  | _ => none

def positions (extra : Nat) : Reader (List Point) := enclosed [] (list (position extra))

def ringList (extra : Nat) : Reader (List (List Point)) := enclosed [] (list (positions extra))

def loosePosition (extra : Nat) : Reader Point
  | .opening :: ts =>
    match position extra ts with
    | some (p, .closing :: rest) => some (p, rest)
    | _ => none
  | ts => position extra ts

/-- The dimension before the parentheses, if the name does not end in it. -/
def dimension : Reader Nat
  | .word w :: ts =>
    match dimensionWord w with
    | some n => some (n, ts)
    | none => if isEmptyWord w then some (0, .word w :: ts) else none
  | [] => none
  | ts => some (0, ts)

inductive Kind where
  | point
  | line
  | polygon
  | multiPoint
  | multiLine
  | multiPolygon
  | collection
  deriving DecidableEq, Repr

def kinds : List (String × Kind) :=
  [("POINT", .point), ("LINESTRING", .line), ("POLYGON", .polygon), ("MULTIPOINT", .multiPoint),
    ("MULTILINESTRING", .multiLine), ("MULTIPOLYGON", .multiPolygon),
    ("GEOMETRYCOLLECTION", .collection)]

def kindOf (w : String) : Option (Kind × Option Nat) :=
  let named (suffix : String) (extra : Option Nat) :=
    (kinds.find? fun k => Text.sameWord w (k.1 ++ suffix)).map fun k => (k.2, extra)
  if Text.sameWord w "LINEARRING" then some (.line, none)
  else named "" none <|> named "Z" (some 1) <|> named "M" (some 1) <|> named "ZM" (some 2)

/-- A geometry, nested less than `depth` deep. A point without position is an empty set of
points. -/
def geometry : (depth : Nat) → Reader Geometry
  | depth + 1, .word w :: ts => do
    let (kind, extra?) ← kindOf w
    let (extra, ts) ← match extra? with
      | some n => some (n, ts)
      | none => dimension ts
    let as {α : Type} (make : α → Geometry) (r : Option (α × List Token)) :=
      r.map fun r => (make r.1, r.2)
    match kind with
    | .point => as id (enclosed (.multiPoint []) (fun ts => as .point (position extra ts)) ts)
    | .line => as .line (positions extra ts)
    | .polygon => as (fun rs => .polygon (.ofRings rs)) (ringList extra ts)
    | .multiPoint => as .multiPoint (enclosed [] (list (loosePosition extra)) ts)
    | .multiLine => as .multiLine (ringList extra ts)
    | .multiPolygon =>
      as (fun ps => .multiPolygon (ps.map .ofRings)) (enclosed [] (list (ringList extra)) ts)
    | .collection => as .collection (enclosed [] (list (geometry depth)) ts)
  | _, _ => none

def parse? (s : String) : Option Geometry :=
  let ts := tokens [] s.toList
  (geometry (ts.length + 1) ts).map (·.1)

def positionText (p : Point) : String := p.x.text ++ " " ++ p.y.text

def enclose (parts : List String) : String := "(" ++ ",".intercalate parts ++ ")"

def lineText (ps : List Point) : String := enclose (ps.map positionText)

def polygonText (p : Polygon) : String := enclose (p.rings.map lineText)

def body (parts : List String) : String := if parts.isEmpty then " EMPTY" else enclose parts

def polygonBody (p : Polygon) : String :=
  if p.exterior.isEmpty then " EMPTY" else polygonText p

mutual

def text : Geometry → String
  | .point p => "POINT" ++ body [positionText p]
  | .segment a b => "LINESTRING" ++ lineText [a, b]
  | .line ps => "LINESTRING" ++ body (ps.map positionText)
  | .polygon p => "POLYGON" ++ polygonBody p
  | .multiPoint ps => "MULTIPOINT" ++ body (ps.map fun p => enclose [positionText p])
  | .multiLine ls => "MULTILINESTRING" ++ body (ls.map lineText)
  | .multiPolygon ps => "MULTIPOLYGON" ++ body (ps.map polygonText)
  | .rect lo hi => "POLYGON" ++ polygonBody (Geometry.rectPolygon lo hi)
  | .triangle a b c => "POLYGON" ++ polygonBody (Geometry.trianglePolygon a b c)
  | .collection gs => "GEOMETRYCOLLECTION" ++ body (texts gs)

def texts : List Geometry → List String
  | [] => []
  | g :: gs => text g :: texts gs

end

end FeatureLayer.Wkt

namespace FeatureLayer.Geometry

def ofWkt? (s : String) : Option Geometry := Wkt.parse? s

def toWkt (g : Geometry) : String := Wkt.text g

end FeatureLayer.Geometry
