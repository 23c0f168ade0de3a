import FeatureLayer.Layer.Basic

namespace FeatureLayer

namespace Faults

variable (f : Faults) (s : Store)

def referenced (v : View) (unnamed : String) (g : GeometryField) (index : Nat) :
    GeometryField × List Warning :=
  let missing (detail : String) : GeometryField × List Warning :=
    ({ g with spatialRef := .none }, [.missingSpatialRef (g.displayName unnamed) detail])
  match f.spatialRefOf s v index with
  | .ok ref => if ref.isEmpty then missing "empty spatial reference" else ({ g with spatialRef := some ref }, [])
  | .error e => missing e.message

def inspect (v : View) (unnamed : String) : Schema × List Warning :=
  let schema := v.schema (s.table v.table)
  let found := schema.geometryFields.zipIdx.map fun (g, i) => f.referenced s v unnamed g i
  ({ schema with geometryFields := found.map (·.1) }, found.flatMap (·.2))

end Faults

namespace Layer

variable (f : Faults) (s : Store)

def spatialRef (l : Layer) : Except Error (Option String) × List Warning :=
  match l.state with
  | none => (.error .layerClosed, [])
  | some o =>
    match f.spatialRefOf s o.view 0 with
    | .ok ref => (.ok (if ref.isEmpty then none else some ref), [])
    | .error e =>
      let column := ((s.table o.view.table).schema.geometryFields.head?.map (·.name)).getD ""
      (.ok none, l.report [.missingSpatialRef column e.detail])

def describeFields (l : Layer) : Except Error Schema × List Warning :=
  match l.state with
  | none => (.error .layerClosed, [])
  | some o =>
    let (schema, ws) := f.inspect s o.view l.reading.unnamedGeometry
    (.ok schema, l.report ws)

def refreshSchema (l : Layer) : Layer × List Warning :=
  match l.state with
  | none => (l, [])
  | some o =>
    let (schema, ws) := f.inspect s o.view l.reading.unnamedGeometry
    (l.withState { o with schema, fieldNames := schema.names l.reading.unnamedGeometry }, l.report ws)

/-- A view of what the layer is opened on, with the filters that it starts under. The spatial filter
of a query belongs to the query. -/
def openView (l : Layer) (c : Connection) (spatial : Option Geometry) :
    Except Error (View × Filters) × Connection × Store :=
  let failed (e : Error) : Error := .openFailure l.dataSource e.detail
  match l.source with
  | .name name =>
    match f.layerByName s c name with
    | .error e => (.error (failed e), c, s)
    | .ok v =>
      match spatial with
      | some g => (.ok (v.setSpatial (some (.geometry g)), ⟨"", some (.geometry g)⟩), c, s)
      | none => (.ok (v, .none), c, s)
  | .query text =>
    match f.runQuery s c text spatial l.options.dialect with
    | (.error e, c, s) => (.error (failed e), c, s)
    | (.ok none, c, s) =>
      (.error (.openFailure l.dataSource s!"'{text}' did not produce a result set"), c, s)
    | (.ok (some v), c, s) => (.ok (v, .none), c, s)

def openState (l : Layer) (access : Access) : Except Error OpenLayer × List Warning × Store :=
  match f.connect s l.dataSource access with
  | .error (.openFailure source detail) => (.error (.openFailure source detail), [], s)
  | .error e => (.error (.openFailure l.dataSource e.detail), [], s)
  | .ok c =>
    match l.options.spatialFilter.mapM f.codec.ofWkt with
    | .error e => (.error e, [], s)
    | .ok spatial =>
      match l.openView f s c spatial with
      | (.error e, _, s) => (.error e, [], s)
      | (.ok (v, filters), c, s) =>
        let v := v.rewind
        let (schema, ws) := f.inspect s v l.reading.unnamedGeometry
        (.ok ⟨c, v, access, schema, schema.names l.reading.unnamedGeometry, filters, .none, .idle,
          none⟩, l.report ws, s)

def openOn (dataSource : String) (source : LayerSource) (options : OpenOptions) :
    Except Error Layer × List Warning × Store :=
  let l : Layer := ⟨dataSource, source, options, .default, none, none⟩
  let (o, ws, s) := l.openState f s options.access
  (o.map l.withState, ws, s)

/-- Closes a layer; a closed one stays closed. The result set of a query is given back. -/
def close (l : Layer) : Layer × Store :=
  match l.state with
  | none => (l, s)
  | some o =>
    ({ l with state := none }, if l.source.isQuery then s.release o.connection else s)

/-- Closes a layer and opens it again. Cursor, filters and fields left out start over. -/
def reopen (l : Layer) (access : Access) : Except Error Unit × List Warning × Layer × Store :=
  let (l, s) := l.close s
  let l := { l with options := { l.options with access } }
  match l.openState f s access with
  | (.ok o, ws, s) => (.ok (), ws, l.withState o, s)
  | (.error e, ws, s) => (.error e, ws, l, s)

end Layer

end FeatureLayer
