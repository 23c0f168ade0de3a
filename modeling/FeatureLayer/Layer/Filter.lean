import FeatureLayer.Layer.Basic

namespace FeatureLayer

namespace Layer

variable (f : Faults) (s : Store)

/-- Sets the predicate, or clears it with a blank text. When the store rejects it, the one before is
installed again. -/
def setPredicate (l : Layer) (text : String) : Except Error Unit × List Warning × Layer :=
  match l.state with
  | none => (.error .layerClosed, [], l)
  | some o =>
    let text : String := .ofList (Text.trim text.toList)
    match f.setPredicate s 0 o.view (if text.isEmpty then none else some text) with
    | (.ok (), view) =>
      (.ok (), [], l.withState
        { o with view, filters := { o.filters with predicate := text }, scan := .idle })
    | (.error e, view) =>
      let (restored, view) := f.setPredicate s 1 view o.filters.predicate?
      let ws := match restored with
        | .ok () => []
        | .error e => [.attributeFilterNotRestored e]
      (.error (.filterSyntax text e.detail), l.report ws, l.withState { o with view })

def setSpatial (l : Layer) (filter : Option SpatialFilter) : Except Error Unit × Layer :=
  match l.state with
  | none => (.error .layerClosed, l)
  | some o =>
    (.ok (), l.withState
      { o with
        view := o.view.setSpatial filter
        filters := { o.filters with spatial := filter }
        scan := .idle })

def setSpatialWkt (l : Layer) (text : String) : Except Error Unit × Layer :=
  match f.codec.ofWkt text with
  | .error e => (.error e, l)
  | .ok g => l.setSpatial (some (.geometry g))

def setSpatialGeometry (l : Layer) (g : Geometry) : Except Error Unit × Layer :=
  match f.codec.ofWkb (g.toWkb .leastFirst) with
  | .error e => (.error e, l)
  | .ok g => l.setSpatial (some (.geometry g))

/-- Sets a rectangle as spatial filter; its bounds have to be finite and in order. -/
def setSpatialRect (l : Layer) (e : Envelope) : Except Error Unit × Layer :=
  if e.isValid then l.setSpatial (some (.rect e))
  else
    let numbers := [e.minX, e.minY, e.maxX, e.maxY].map (·.pointedText)
    (.error (.badArgument ("invalid spatial filter rectangle [" ++ ", ".intercalate numbers ++ "]")), l)

def outlineText (e : Envelope) : String :=
  let corner (x y : Double) := x.text ++ " " ++ y.text
  "POLYGON ((" ++ ",".intercalate
    [corner e.minX e.minY, corner e.maxX e.minY, corner e.maxX e.maxY, corner e.minX e.maxY,
      corner e.minX e.minY] ++ "))"

def spatialText (l : Layer) : Except Error (Option String) := do
  match (← l.opened).filters.spatial with
  | none => .ok none
  | some (.geometry g) => (f.codec.toWkt g .legacy).map some
  | some (.rect e) => .ok (some (outlineText e))

def geometryWord : String := "OGR_GEOMETRY"

def fieldOfName? (schema : Schema) (unnamed name : String) : Option IgnoredFields :=
  match schema.fieldIndex? name with
  | some i => some ⟨[i], []⟩
  | none =>
    if Text.sameWord name geometryWord then
      if schema.geometryFields.isEmpty then none else some ⟨[], [0]⟩
    else (schema.geometryIndex? name unnamed).map fun i => ⟨[], [i]⟩

def positions (bound : Nat) (indices : List Nat) : List Nat := (List.range bound).filter indices.contains

def ignoredNames (l : Layer) : Except Error (List String) :=
  l.opened.map fun o =>
    o.ignored.attributes.filterMap (fun i => o.schema.fields[i]?.map (·.name)) ++
      o.ignored.geometries.filterMap fun i =>
        o.schema.geometryFields[i]?.map (·.displayName l.reading.unnamedGeometry)

def storeNames (schema : Schema) (ignored : IgnoredFields) : List String :=
  ignored.attributes.filterMap (fun i => schema.fields[i]?.map (·.name)) ++
    ignored.geometries.filterMap fun i =>
      schema.geometryFields[i]?.map fun g => if g.name.isEmpty then geometryWord else g.name

def setIgnored (l : Layer) (names : List String) : Except Error Unit × Layer :=
  match l.state with
  | none => (.error .layerClosed, l)
  | some o =>
    let layerName := (s.table o.view.table).name
    if !f.viewCan s o.view "IgnoreFields" then
      (.error (.capabilityUnsupported "IgnoreFields" layerName), l)
    else
      let find := fieldOfName? o.schema l.reading.unnamedGeometry
      match names.find? fun n => (find n).isNone with
      | some name => (.error (.unmappedField name layerName), l)
      | none =>
        let found := names.filterMap find
        let ignored : IgnoredFields :=
          ⟨positions o.schema.fields.length (found.flatMap (·.attributes)),
            positions o.schema.geometryFields.length (found.flatMap (·.geometries))⟩
        match f.ignoreFields s o.view (storeNames o.schema ignored) with
        | (.error e, view) => (.error e, l.withState { o with view })
        | (.ok (), view) => (.ok (), l.withState { o with view, ignored })

/-- A field by its name; the word for the first geometry comes last. -/
def selectedOfName? (schema : Schema) (unnamed name : String) : Option IgnoredFields :=
  match schema.fieldIndex? name, schema.geometryIndex? name unnamed with
  | some i, _ => some ⟨[i], []⟩
  | none, some i => some ⟨[], [i]⟩
  | none, none =>
    if Text.sameWord name geometryWord && !schema.geometryFields.isEmpty then some ⟨[], [0]⟩ else none

def setSelected (l : Layer) (names : List String) : Except Error Unit × Layer :=
  match l.state with
  | none => (.error .layerClosed, l)
  | some o =>
    let unnamed := l.reading.unnamedGeometry
    let find := selectedOfName? o.schema unnamed
    match names.find? fun n => (find n).isNone with
    | some name => (.error (.unmappedField name (s.table o.view.table).name), l)
    | none =>
      let found := names.filterMap find
      let attributes := found.flatMap (·.attributes)
      let geometries := found.flatMap (·.geometries)
      l.setIgnored f s <|
        (o.schema.fields.zipIdx.filter fun e => !attributes.contains e.2).map (·.1.name) ++
          (o.schema.geometryFields.zipIdx.filter fun e => !geometries.contains e.2).map
            (·.1.displayName unnamed)

end Layer

end FeatureLayer
