import FeatureLayer.Geometry.Region
import FeatureLayer.Store.Basic
/-!
Overlays: the records of two views are cut along each other's polygons, and the pieces are written
through a third. First come the pieces of every input record, then those of every method record; the
progress is told after each of these, and once more before anything is written.
-/

namespace FeatureLayer

inductive OverlayKind where
  | intersection
  | union
  | symDifference
  | identity
  | update
  | clip
  | erase
  deriving DecidableEq, Repr

namespace OverlayKind

def name : OverlayKind → String
  | intersection => "Intersection"
  | union => "Union"
  | symDifference => "SymDifference"
  | identity => "Identity"
  | update => "Update"
  | clip => "Clip"
  | erase => "Erase"

def all : List OverlayKind := [intersection, union, symDifference, identity, update, clip, erase]

def ofName? (s : String) : Option OverlayKind := all.find? (·.name = s)

def method (k : OverlayKind) : String := "OGR_L_" ++ k.name

/-- Whether pieces carry attributes of the method layer under names of their own. -/
def joinsAttributes : OverlayKind → Bool
  | intersection | union | symDifference | identity => true
  | update | clip | erase => false

/-- Whether method records give pieces by themselves. -/
def keepsMethod : OverlayKind → Bool
  | union | symDifference | update => true
  | intersection | identity | clip | erase => false

end OverlayKind

structure RegionAlgebra where
  Region : Type
  ofPolygons : List Polygon → Region
  toPolygons : Region → List Polygon
  empty : Region
  union : Region → Region → Region
  inter : Region → Region → Region
  diff : Region → Region → Region

def RegionAlgebra.exact : RegionAlgebra :=
  ⟨FeatureLayer.Region, Region.ofPolygons, Region.toPolygons, Region.empty, Region.union, Region.inter,
    Region.diff⟩

namespace Overlay

structure Options where
  /-- Passes over records that are not polygonal. -/
  skipFailures : Bool
  promoteToMulti : Bool
  inputPrefix : String
  methodPrefix : String
  deriving DecidableEq, Repr

def Options.ofList (l : OptionList) : Options :=
  ⟨l.isOn "SKIP_FAILURES" false, l.isOn "PROMOTE_TO_MULTI" false,
    (l.find? "INPUT_PREFIX").getD "", (l.find? "METHOD_PREFIX").getD ""⟩

structure Part where
  data : List Datum
  polygons : List Polygon

structure Piece where
  input : Option Part
  method : Option Part
  polygons : List Polygon

/-- The records that take part; those without geometry do not. -/
def collect (kind : OverlayKind) (skip : Bool) : List Record → Except Error (List Part)
  | [] => .ok []
  | r :: rs =>
    match r.geometries.head?.join with
    | none => collect kind skip rs
    | some g =>
      match g.toPolygons? with
      | some polygons => (collect kind skip rs).map (⟨r.data, polygons⟩ :: ·)
      | none =>
        if skip then collect kind skip rs
        else
          .error (.refused .unsupportedGeometryType kind.method
            s!"feature {r.fid.getD Record.missingFid} is not polygonal")

def cover (A : RegionAlgebra) (parts : List Part) : A.Region :=
  parts.foldl (fun r p => A.union r (A.ofPolygons p.polygons)) A.empty

def inputPieces (A : RegionAlgebra) (kind : OverlayKind) (methods : List Part) (covered : A.Region)
    (i : Part) : List Piece :=
  let region := A.ofPolygons i.polygons
  let uncovered : Piece := ⟨some i, none, A.toPolygons (A.diff region covered)⟩
  let shared := methods.map fun m : Part =>
    (⟨some i, some m, A.toPolygons (A.inter region (A.ofPolygons m.polygons))⟩ : Piece)
  match kind with
  | .intersection => shared
  | .union | .identity => shared ++ [uncovered]
  | .symDifference | .erase | .update => [uncovered]
  | .clip => [⟨some i, none, A.toPolygons (A.inter region covered)⟩]

def methodPiece (A : RegionAlgebra) (kind : OverlayKind) (covered : A.Region) (m : Part) : Piece :=
  ⟨none, some m,
    if kind = .update then m.polygons else A.toPolygons (A.diff (A.ofPolygons m.polygons) covered)⟩

def pieces (A : RegionAlgebra) (kind : OverlayKind) (inputs methods : List Part) : List Piece :=
  inputs.flatMap (inputPieces A kind methods (cover A methods)) ++
    if kind.keepsMethod then methods.map (methodPiece A kind (cover A inputs)) else []

def resultField (before : String) (f : Field) : Field :=
  { f with name := before ++ f.name, nullable := true, unique := false, ignored := false }

def hasName (name : String) (f : Field) : Bool := Text.sameWord f.name name

/-- The fields of a result that has none: those of the input, and those of the method whose names
are free. -/
def resultFields (kind : OverlayKind) (o : Options) (input method : List Field) : List Field :=
  let own := input.map (resultField o.inputPrefix)
  if kind.joinsAttributes then
    method.foldl (fun fs f =>
      let f := resultField o.methodPrefix f
      if fs.any (hasName f.name) then fs else fs ++ [f]) own
  else own

def unknownGeometry : GeometryField := ⟨"", "Unknown", true, false, none⟩

def prepare (kind : OverlayKind) (o : Options) (input method : List Field) (t : FeatureTable) :
    FeatureTable :=
  { t with
    schema.fields := if t.schema.fields.isEmpty then resultFields kind o input method else t.schema.fields
    schema.geometryFields :=
      if t.schema.geometryFields.isEmpty then [unknownGeometry] else t.schema.geometryFields }

def targets (before : String) (source result : List Field) : List (Option Nat) :=
  source.map fun f => result.findIdx? (hasName (before ++ f.name))

def methodTargets (kind : OverlayKind) (o : Options) (source result : List Field) :
    List (Option Nat) :=
  if kind = .update then targets "" source result
  else if kind.joinsAttributes then targets o.methodPrefix source result
  else source.map fun _ => none

def place (data : List Datum) : List (Datum × Option Nat) → List Datum
  | [] => data
  | (_, none) :: rest => place data rest
  | (d, some i) :: rest => place (data.set i d) rest

def placePart (part : Option Part) (targets : List (Option Nat)) (data : List Datum) : List Datum :=
  match part with
  | some p => place data (p.data.zip targets)
  | none => data

/-- The record of a piece: attributes of the input, then those of the method, then the polygons as
the first geometry. -/
def record (promote : Bool) (s : Schema) (fromInput fromMethod : List (Option Nat)) (p : Piece) :
    Record :=
  let blank := Record.blank s.fields.length s.geometryFields.length
  let geometry := match promote, p.polygons with
    | false, [polygon] => Geometry.polygon polygon
    | _, polygons => Geometry.multiPolygon polygons
  { blank with
    data := placePart p.method fromMethod (placePart p.input fromInput blank.data)
    geometries := blank.geometries.set 0 (some geometry) }

/-- What is told as done after each record, and before writing. -/
def milestones (total : Nat) : List Nat := List.range' 1 total ++ [total]

def fraction (total done : Nat) : Double :=
  if total = 0 then Binary.ofInt 1 else Binary.ofInt done / Binary.ofInt total

/-- Tells milestones until one is answered with no; whether none was, and what was told. -/
def tell (answer : Nat → Bool) (total : Nat) : (call : Nat) → List Nat → Bool × List Double
  | _, [] => (true, [])
  | call, done :: rest =>
    if answer call then
      let (go, told) := tell answer total (call + 1) rest
      (go, fraction total done :: told)
    else (false, [fraction total done])

def writeAll (t : FeatureTable) (v : View) : List Record → Except Error Unit × View × FeatureTable
  | [] => (.ok (), v, t)
  | r :: rs =>
    match v.create t r with
    | (.ok _, v, t) => writeAll t v rs
    | (.error e, v, t) => (.error e, v, t)

structure Outcome where
  value : Except Error Unit
  /-- The fractions told. -/
  progress : List Double
  input : View
  result : View
  store : Store

/-- The overlay of two views into a third. `answer` says at each milestone whether to go on. -/
def run (A : RegionAlgebra) (kind : OverlayKind) (s : Store) (input method result : View)
    (o : Options) (answer : Nat → Bool) : Outcome :=
  let stop (e : Error) (told : List Double) (result : View) (s : Store) : Outcome :=
    ⟨.error e, told, { input with lastError := e.detail }, result, s⟩
  if !result.writable then
    stop (.refused .unsupportedOperation kind.method "result layer is opened read-only") [] result s
  else
    let inputFields := (s.table input.table).schema.fields
    let methodFields := (s.table method.table).schema.fields
    match collect kind o.skipFailures (input.selected (s.table input.table)),
        collect kind o.skipFailures (method.selected (s.table method.table)) with
    | .error e, _ | .ok _, .error e => stop e [] result s
    | .ok inputs, .ok methods =>
      let s := s.change result (prepare kind o inputFields methodFields)
      let schema := (s.table result.table).schema
      let total := inputs.length + if kind.keepsMethod then methods.length else 0
      let (go, told) := tell answer total 0 (milestones total)
      if !go then stop (.refused .failure kind.method "User terminated") told result s
      else
        let records := ((pieces A kind inputs methods).filter (!·.polygons.isEmpty)).map
          (record o.promoteToMulti schema (targets o.inputPrefix inputFields schema.fields)
            (methodTargets kind o methodFields schema.fields))
        let (e, result, t) := writeAll (s.table result.table) result records
        let s := s.setTable result.table t
        match e with
        | .ok () => ⟨.ok (), told, input, result, s⟩
        | .error e => stop e told result s

end Overlay

end FeatureLayer
