
namespace FeatureLayer

inductive FieldKind where
  | integer
  | integers
  | real
  | reals
  | text
  | texts
  | binary
  | date
  | time
  | dateTime
  | integer64
  | integers64
  deriving DecidableEq, Repr

namespace FieldKind

def name : FieldKind → String
  | integer => "Integer"
  | integers => "IntegerList"
  | real => "Real"
  | reals => "RealList"
  | text => "String"
  | texts => "StringList"
  | binary => "Binary"
  | date => "Date"
  | time => "Time"
  | dateTime => "DateTime"
  | integer64 => "Integer64"
  | integers64 => "Integer64List"

def all : List FieldKind :=
  [integer, integers, real, reals, text, texts, binary, date, time, dateTime, integer64, integers64]

def ofName? (s : String) : Option FieldKind := all.find? (·.name = s)

def isList : FieldKind → Bool
  | integers | reals | texts | integers64 => true
  | _ => false

end FieldKind

inductive Subkind where
  | none
  | boolean
  | int16
  | float32
  | json
  | uuid
  deriving DecidableEq, Repr

namespace Subkind

def name : Subkind → String
  | none => "None"
  | boolean => "Boolean"
  | int16 => "Int16"
  | float32 => "Float32"
  | json => "JSON"
  | uuid => "UUID"

def all : List Subkind := [none, boolean, int16, float32, json, uuid]

def ofName? (s : String) : Option Subkind := all.find? (·.name = s)

end Subkind

structure Field where
  name : String
  kind : FieldKind
  subkind : Subkind
  /-- Formatting width, zero when unspecified. -/
  width : Int
  precision : Int
  nullable : Bool
  unique : Bool
  /-- The value of records that leave the field out, as a literal. -/
  fallback : Option String
  ignored : Bool
  domain : Option String
  deriving DecidableEq, Repr

def Field.isBoolean (f : Field) : Bool := f.kind = .integer && f.subkind = .boolean

structure GeometryField where
  /-- May be empty; then the field goes by a name that the reader chooses. -/
  name : String
  kind : String
  nullable : Bool
  ignored : Bool
  spatialRef : Option String
  deriving DecidableEq, Repr

def GeometryField.displayName (g : GeometryField) (unnamed : String) : String :=
  if g.name.isEmpty then unnamed else g.name

structure Schema where
  fields : List Field
  geometryFields : List GeometryField
  deriving DecidableEq, Repr

namespace Schema

def empty : Schema := ⟨[], []⟩

def fieldIndex? (s : Schema) (name : String) : Option Nat :=
  s.fields.findIdx? (·.name = name)

def geometryIndex? (s : Schema) (name unnamed : String) : Option Nat :=
  s.geometryFields.findIdx? (·.displayName unnamed = name)

def names (s : Schema) (unnamed : String) : List String :=
  s.fields.map (·.name) ++ s.geometryFields.map (·.displayName unnamed)

end Schema

end FeatureLayer
