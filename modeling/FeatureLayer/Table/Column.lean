import FeatureLayer.Schema
import FeatureLayer.Value

namespace FeatureLayer

inductive Column where
  | integer (cells : List (Option Int))
  | boolean (cells : List (Option Bool))
  | integer64 (cells : List (Option Int))
  | real (cells : List (Option Double))
  | text (cells : List (Option String))
  | date (cells : List (Option Int))
  | dateTime (cells : List (Option Double))
  | binary (cells : List (Option (List UInt8)))
  | integers (cells : List (List (Option Int)))
  | integers64 (cells : List (List (Option Int)))
  | reals (cells : List (List (Option Double)))
  | texts (cells : List (List (Option String)))
  | geometry (cells : List (Option GeometryValue))
  deriving DecidableEq

namespace Column

/-- An empty column for a field of that kind. Times are read as text. -/
def forField (kind : FieldKind) (subkind : Subkind) : Column :=
  match kind with
  | .integer => if subkind = .boolean then boolean [] else integer []
  | .integer64 => integer64 []
  | .real => real []
  | .text | .time => text []
  | .date => date []
  | .dateTime => dateTime []
  | .binary => binary []
  | .integers => integers []
  | .integers64 => integers64 []
  | .reals => reals []
  | .texts => texts []

def kindName : Column → String
  | integer _ => "Integer"
  | boolean _ => "Boolean"
  | integer64 _ => "Integer64"
  | real _ => "Real"
  | text _ => "String"
  | date _ => "Date"
  | dateTime _ => "DateTime"
  | binary _ => "Binary"
  | integers _ => "IntegerList"
  | integers64 _ => "Integer64List"
  | reals _ => "RealList"
  | texts _ => "StringList"
  | geometry _ => "Geometry"

def length : Column → Nat
  | integer c | integer64 c | date c => c.length
  | boolean c => c.length
  | real c | dateTime c => c.length
  | text c => c.length
  | binary c => c.length
  | integers c | integers64 c => c.length
  | reals c => c.length
  | texts c => c.length
  | geometry c => c.length

def orNull {α : Type} (make : α → Value) : Option α → Value
  | some a => make a
  | none => .null

def values : Column → List Value
  | integer c => c.map (orNull .integer)
  | boolean c => c.map (orNull .boolean)
  | integer64 c => c.map (orNull .integer64)
  | real c => c.map (orNull .real)
  | text c => c.map (orNull .text)
  | date c => c.map (orNull .date)
  | dateTime c => c.map (orNull .dateTime)
  | binary c => c.map (orNull .binary)
  | integers c => c.map .integers
  | integers64 c => c.map .integers64
  | reals c => c.map .reals
  | texts c => c.map .texts
  | geometry c => c.map (orNull .geometry)

def get? (c : Column) (row : Nat) : Option Value := c.values[row]?

/-- Adds a missing cell; a missing list is a list of one missing item. -/
def pushNull : Column → Column
  | integer c => integer (c ++ [none])
  | boolean c => boolean (c ++ [none])
  | integer64 c => integer64 (c ++ [none])
  | real c => real (c ++ [none])
  | text c => text (c ++ [none])
  | date c => date (c ++ [none])
  | dateTime c => dateTime (c ++ [none])
  | binary c => binary (c ++ [none])
  | integers c => integers (c ++ [[none]])
  | integers64 c => integers64 (c ++ [[none]])
  | reals c => reals (c ++ [[none]])
  | texts c => texts (c ++ [[none]])
  | geometry c => geometry (c ++ [none])

def push : Column → Value → Column
  | integer c, .integer v => integer (c ++ [some v])
  | boolean c, .boolean v => boolean (c ++ [some v])
  | integer64 c, .integer64 v => integer64 (c ++ [some v])
  | real c, .real v => real (c ++ [some v])
  | text c, .text v => text (c ++ [some v])
  | date c, .date v => date (c ++ [some v])
  | dateTime c, .dateTime v => dateTime (c ++ [some v])
  | binary c, .binary v => binary (c ++ [some v])
  | integers c, .integers v => integers (c ++ [v])
  | integers64 c, .integers64 v => integers64 (c ++ [v])
  | reals c, .reals v => reals (c ++ [v])
  | texts c, .texts v => texts (c ++ [v])
  | geometry c, .geometry v => geometry (c ++ [some v])
  | c, _ => c.pushNull

def take (rows : Nat) : Column → Column
  | integer c => integer (c.take rows)
  | boolean c => boolean (c.take rows)
  | integer64 c => integer64 (c.take rows)
  | real c => real (c.take rows)
  | text c => text (c.take rows)
  | date c => date (c.take rows)
  | dateTime c => dateTime (c.take rows)
  | binary c => binary (c.take rows)
  | integers c => integers (c.take rows)
  | integers64 c => integers64 (c.take rows)
  | reals c => reals (c.take rows)
  | texts c => texts (c.take rows)
  | geometry c => geometry (c.take rows)

def cellSize : Column → Nat
  | boolean _ => 1
  | integer _ | date _ => 8
  | integer64 _ | real _ | dateTime _ => 16
  | geometry _ => 40
  | _ => 24

end Column

end FeatureLayer
