import FeatureLayer.Geometry.Codec
import FeatureLayer.Record
import FeatureLayer.Value.Writing

namespace FeatureLayer

structure RowTarget where
  schema : Schema
  layerName : String
  /-- The name that the store gives to the identifier, empty if it gives none. -/
  fidColumn : String
  unnamedGeometry : String

namespace RowTarget

inductive Place where
  | fid
  | attribute (index : Nat)
  | geometry (index : Nat)
  deriving DecidableEq, Repr

def geometryAliases : List String := ["geom", "geometry", "_ogr_geometry_", "OGR_GEOMETRY"]

def place? (t : RowTarget) (name : String) : Option Place :=
  if name = Row.fidName || (!t.fidColumn.isEmpty && name = t.fidColumn) then some .fid
  else
    match t.schema.fieldIndex? name, t.schema.geometryIndex? name t.unnamedGeometry with
    | some i, _ => some (.attribute i)
    | none, some i => some (.geometry i)
    | none, none =>
      if (name = t.unnamedGeometry || geometryAliases.any (Text.sameWord name)) &&
          !t.schema.geometryFields.isEmpty then some (.geometry 0)
      else none

def encodeFid (name : String) : Value → Except Error (Option Int)
  | .null => .ok none
  | v =>
    match v.toInteger64? with
    | some n => .ok (Record.fidOf n)
    | none => .error (.typeMismatch name "integer64" v.kind)

def encodeAttribute (f : Field) (v : Value) : Except Error Datum :=
  if v.isNull && !f.nullable then .error (.notNullable f.name)
  else (f.store v).mapError (·.error f.name v)

def encodeGeometry (codec : GeometryCodec) (g : GeometryField) (name : String) (v : Value) :
    Except Error (Option Geometry) := do
  let geometry ← codec.ofValue name v
  if geometry.isNone && !g.nullable then .error (.notNullable name) else .ok geometry

def encodeEntry (t : RowTarget) (codec : GeometryCodec) (r : Record) (entry : String × Value) :
    Except Error Record :=
  let (name, v) := entry
  match t.place? name with
  | none => .error (.unmappedField name t.layerName)
  | some .fid => do .ok { r with fid := ← encodeFid name v }
  | some (.attribute i) =>
    match t.schema.fields[i]? with
    | none => .error (.unmappedField name t.layerName)
    | some f => do .ok { r with data := r.data.set i (← encodeAttribute f v) }
  | some (.geometry i) =>
    match t.schema.geometryFields[i]? with
    | none => .error (.unmappedField name t.layerName)
    | some g => do .ok { r with geometries := r.geometries.set i (← encodeGeometry codec g name v) }

/-- The record of a row; fields that the row leaves out stay unset. The first entry that cannot be
encoded is the error. -/
def encode (t : RowTarget) (codec : GeometryCodec) (row : Row) : Except Error Record :=
  row.entries.foldlM (t.encodeEntry codec)
    (Record.blank t.schema.fields.length t.schema.geometryFields.length)

end RowTarget

end FeatureLayer
