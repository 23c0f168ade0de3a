import FeatureLayer.Calendar

namespace FeatureLayer

inductive GeometryValue where
  | wkb (bytes : List UInt8)
  | wkt (text : String)
  | typeName (name : String)
  | summary (text : String)
  /-- Least x, least y, greatest x, greatest y. -/
  | bounds (minX minY maxX maxY : Double)
  deriving DecidableEq

inductive Value where
  | null
  | integer (v : Int)
  | boolean (v : Bool)
  | integer64 (v : Int)
  | real (v : Double)
  | text (v : String)
  /-- Days since 1970-01-01. -/
  | date (days : Int)
  /-- Seconds since the start of 1970 in UTC. -/
  | dateTime (seconds : Double)
  | binary (v : List UInt8)
  | integers (v : List (Option Int))
  | integers64 (v : List (Option Int))
  | reals (v : List (Option Double))
  | texts (v : List (Option String))
  | geometry (v : GeometryValue)
  deriving DecidableEq

namespace Value

def ofDate (d : Date) : Value := date d.dayNumber

def ofMoment (m : Moment) : Value := dateTime m.toDouble

def kind : Value → String
  | null => "null"
  | integer _ => "integer"
  | boolean _ => "boolean"
  | integer64 _ => "integer64"
  | real _ => "real"
  | text _ => "string"
  | date _ => "date"
  | dateTime _ => "datetime"
  | binary _ => "binary"
  | integers _ => "integer list"
  | integers64 _ => "integer64 list"
  | reals _ => "real list"
  | texts _ => "string list"
  | geometry _ => "geometry"

def isNull : Value → Bool
  | null => true
  | _ => false

def toText? : Value → Option String
  | text v => some v
  | _ => none

def toReal? : Value → Option Double
  | real v => some v
  | integer v => some (Binary.ofInt v)
  | integer64 v => some (Binary.ofInt v)
  | _ => none

def toInteger? : Value → Option Int
  | integer v => some v
  | _ => none

def toInteger64? : Value → Option Int
  | integer64 v => some v
  | integer v => some v
  | _ => none

def toBoolean? : Value → Option Bool
  | boolean v => some v
  | _ => none

def toMoment? : Value → Option Moment
  | dateTime s => Moment.ofDouble? s
  | date n => (Date.ofDayNumber? n).map fun d => ⟨d, ⟨0, 0, 0, 0⟩⟩
  | _ => none

def toDate? (v : Value) : Option Date := v.toMoment?.map (·.date)

end Value

/-- Named values in order, each name once. -/
structure Row where
  entries : List (String × Value)
  deriving DecidableEq

namespace Row

def fidName : String := "FID"

def empty : Row := ⟨[]⟩

def assign (name : String) (v : Value) : List (String × Value) → List (String × Value)
  | [] => [(name, v)]
  | e :: es => if e.1 = name then (name, v) :: es else e :: assign name v es

def set (r : Row) (name : String) (v : Value) : Row := ⟨assign name v r.entries⟩

def ofList (entries : List (String × Value)) : Row :=
  entries.foldl (fun r e => r.set e.1 e.2) empty

def find? (r : Row) (name : String) : Option Value :=
  (r.entries.find? (·.1 = name)).map (·.2)

def erase (r : Row) (name : String) : Row := ⟨r.entries.eraseP (·.1 = name)⟩

def names (r : Row) : List String := r.entries.map (·.1)

def fid? (r : Row) : Option Int := (r.find? fidName).bind (·.toInteger64?)

end Row

end FeatureLayer
