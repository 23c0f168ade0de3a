import FeatureLayer.Geometry.Wkb
import FeatureLayer.Geometry.Wkt
import FeatureLayer.ReadOptions
import FeatureLayer.Value
/-!
Geometries as values. Reading and writing the written forms may fail, so they are passed in.
-/

namespace FeatureLayer

inductive Flavor where
  | legacy
  | iso
  deriving DecidableEq, Repr

structure GeometryCodec where
  ofWkb : List UInt8 → Except Error Geometry
  ofWkt : String → Except Error Geometry
  toWkb : Geometry → ByteOrder → Flavor → Except Error (List UInt8)
  toWkt : Geometry → Flavor → Except Error String

namespace GeometryCodec

def ofOption (form : GeometryText) : Option Geometry → Except Error Geometry
  | some g => .ok g
  | none => .error (.geometryParse form)

def plain : GeometryCodec where
  ofWkb bs := ofOption .wkb (Geometry.ofWkb? bs)
  ofWkt s := ofOption .wkt (Geometry.ofWkt? s)
  toWkb g order _ := .ok (g.toWkb order)
  toWkt g _ := .ok g.toWkt

def toValue (codec : GeometryCodec) (options : ReadOptions) : Option Geometry → Except Error Value
  | none => .ok .null
  | some g =>
    let g := if options.promoteToMulti then g.toMulti else g
    let wkb (flavor : Flavor) := (codec.toWkb g options.byteOrder flavor).map (.geometry ∘ .wkb)
    let wkt (flavor : Flavor) := (codec.toWkt g flavor).map (.geometry ∘ .wkt)
    match options.geometryFormat with
    | .wkb => wkb .legacy
    | .wkbIso => wkb .iso
    | .wkt => wkt .legacy
    | .wktIso => wkt .iso
    | .typeName => .ok (.geometry (.typeName g.name))
    | .summary => .ok (.geometry (.summary g.summary))
    | .bounds =>
      let e := g.envelope
      .ok (.geometry (.bounds e.minX e.minY e.maxX e.maxY))
    | .none => .ok .null

def wkbOrNone (codec : GeometryCodec) (bs : List UInt8) : Except Error (Option Geometry) :=
  if bs.isEmpty then .ok none else (codec.ofWkb bs).map some

def wktOrNone (codec : GeometryCodec) (s : String) : Except Error (Option Geometry) :=
  if Text.isBlank s then .ok none else (codec.ofWkt s).map some

/-- The geometry that a value given for `field` holds. Null, no bytes and a blank text hold none. -/
def ofValue (codec : GeometryCodec) (field : String) : Value → Except Error (Option Geometry)
  | .null => .ok none
  | .binary bs | .geometry (.wkb bs) => codec.wkbOrNone bs
  | .text s | .geometry (.wkt s) => codec.wktOrNone s
  | v => .error (.typeMismatch field "WKB or WKT geometry" v.kind)

end GeometryCodec

def GeometryValue.ofGeometry (g : Geometry) (order : ByteOrder) : GeometryValue := .wkb (g.toWkb order)

def GeometryValue.described : GeometryValue → String
  | .wkb bs => "Wkb([" ++ ", ".intercalate (bs.map fun b => toString b.toNat) ++ "])"
  | .wkt s => "Wkt(" ++ Text.quoted s ++ ")"
  | .typeName s => "TypeName(" ++ Text.quoted s ++ ")"
  | .summary s => "Summary(" ++ Text.quoted s ++ ")"
  | .bounds a b c d =>
    "BBox([" ++ ", ".intercalate ([a, b, c, d].map (·.pointedText)) ++ "])"

/-- The geometry that a written form stands for; the other forms say too little. -/
def GeometryValue.toGeometry : GeometryValue → Except Error Geometry
  | .wkb bs => GeometryCodec.plain.ofWkb bs
  | .wkt s => GeometryCodec.plain.ofWkt s
  | v => .error (.badArgument (v.described ++ " cannot be converted to a geometry"))

end FeatureLayer
