import FeatureLayer.Error
import FeatureLayer.Geometry.Wkb

namespace FeatureLayer

/-- The form in which geometries are read; the two flavors of a text or binary form agree on planar
geometries. -/
inductive GeometryFormat where
  | wkb
  | wkbIso
  | wkt
  | wktIso
  | typeName
  | summary
  | bounds
  /-- Geometries are left out. -/
  | none
  deriving DecidableEq, Repr

namespace GeometryFormat

def words : List (String × GeometryFormat) :=
  [("WKB", wkb), ("WKB_ISO", wkbIso), ("WKT", wkt), ("WKT_ISO", wktIso), ("TYPE_NAME", typeName),
    ("SUMMARY", summary), ("BBOX", bounds), ("NONE", none)]

def parse (s : String) : Except Error GeometryFormat :=
  match words.find? fun w => Text.sameWord w.1 s with
  | some w => .ok w.2
  | Option.none => .error (.badArgument s!"Unknown geometry format: '{s}'")

end GeometryFormat

structure ReadOptions where
  geometryFormat : GeometryFormat
  byteOrder : ByteOrder
  /-- Reads single geometries as collections of one. -/
  promoteToMulti : Bool
  /-- What geometry fields without a name are called. -/
  unnamedGeometry : String
  quiet : Bool
  /-- Rows between two questions whether to go on; zero never asks. -/
  pollInterval : Nat
  deriving DecidableEq, Repr

def ReadOptions.default : ReadOptions := ⟨.wkb, .leastFirst, false, "geometry", false, 1000⟩

instance : Inhabited ReadOptions := ⟨.default⟩

end FeatureLayer
