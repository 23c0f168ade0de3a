import FeatureLayer.Geometry.Codec
import FeatureLayer.Record
import FeatureLayer.Table.Column
import FeatureLayer.Value.Reading

namespace FeatureLayer

inductive ColumnSource where
  | fid
  | attribute (index : Nat) (kind : FieldKind) (subkind : Subkind)
  | geometry (index : Nat)
  deriving DecidableEq, Repr

structure IgnoredFields where
  attributes : List Nat
  geometries : List Nat
  deriving DecidableEq, Repr

def IgnoredFields.none : IgnoredFields := ⟨[], []⟩

structure ReadPlan where
  columns : List (String × ColumnSource)
  deriving DecidableEq, Repr

namespace ReadPlan

def attributeColumns (s : Schema) (ignored : IgnoredFields) : List (String × ColumnSource) :=
  s.fields.zipIdx.filterMap fun (f, i) =>
    if f.ignored || ignored.attributes.contains i then none
    else some (f.name, .attribute i f.kind f.subkind)

def geometryColumns (s : Schema) (ignored : IgnoredFields) (unnamed : String) :
    List (String × ColumnSource) :=
  s.geometryFields.zipIdx.filterMap fun (g, i) =>
    if g.ignored || ignored.geometries.contains i then none
    else some (g.displayName unnamed, .geometry i)

def make (s : Schema) (ignored : IgnoredFields) (options : ReadOptions) : ReadPlan :=
  ⟨(Row.fidName, .fid) :: attributeColumns s ignored ++
    if options.geometryFormat = .none then [] else geometryColumns s ignored options.unnamedGeometry⟩

def names (p : ReadPlan) : List String := p.columns.map (·.1)

/-- What a record holds in a column. A record without the field holds nothing there. -/
def valueAt (codec : GeometryCodec) (options : ReadOptions) (r : Record) :
    ColumnSource → Except Error Value
  | .fid => .ok (Column.orNull .integer64 r.fid)
  | .attribute i kind subkind => .ok (Value.ofDatum kind subkind (r.data[i]?.getD .unset))
  | .geometry i => codec.toValue options (r.geometries[i]?.getD none)

/-- Reading a record stops the program if reading a datum of its columns does. -/
def check (p : ReadPlan) (r : Record) : Except Panic Unit :=
  p.columns.forM fun c =>
    match c.2 with
    | .attribute i kind subkind =>
      (Value.read kind subkind (r.data[i]?.getD .unset)).map fun _ => ()
    | _ => .ok ()

def decode (p : ReadPlan) (codec : GeometryCodec) (options : ReadOptions) (r : Record) :
    Except Error (List Value) :=
  p.columns.mapM fun c => valueAt codec options r c.2

def decodeRow (p : ReadPlan) (codec : GeometryCodec) (options : ReadOptions) (r : Record) :
    Except Error Row :=
  (p.decode codec options r).map fun vs => Row.ofList (p.names.zip vs)

def emptyColumn : ColumnSource → Column
  | .fid => .integer64 []
  | .attribute _ kind subkind => Column.forField kind subkind
  | .geometry _ => .geometry []

def emptyColumns (p : ReadPlan) : List Column := p.columns.map fun c => emptyColumn c.2

def addressable : Nat := Nat.pow 2 47

def fits (p : ReadPlan) (rows : Nat) : Bool :=
  p.emptyColumns.all fun c => rows * c.cellSize ≤ addressable

end ReadPlan

end FeatureLayer
