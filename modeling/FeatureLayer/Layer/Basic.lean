import FeatureLayer.Faults
/-!
Layers: a view of a table, opened by name or by query, with what a reader has set up. A layer keeps
the filters that its view runs under, so that it can put them back.
-/

namespace FeatureLayer

inductive Scan where
  /-- The next read starts with the first record that passes the filters. -/
  | idle
  | scanning
  deriving DecidableEq, Repr

/-- The filters that were last accepted. -/
structure Filters where
  /-- Empty when there is none. -/
  predicate : String
  spatial : Option SpatialFilter

def Filters.none : Filters := ⟨"", .none⟩

def Filters.predicate? (fs : Filters) : Option String :=
  if fs.predicate.isEmpty then Option.none else some fs.predicate

structure OpenLayer where
  connection : Connection
  view : View
  access : Access
  /-- The schema as last read from the store. -/
  schema : Schema
  fieldNames : List String
  filters : Filters
  ignored : IgnoredFields
  scan : Scan
  lastWrite : Option Int

/-- Who is asked in long reads whether to stop, and how often that was. -/
structure Interrupt where
  /-- The answer to each question, counted from one. -/
  answer : Nat → Bool
  polls : Nat

structure Layer where
  dataSource : String
  source : LayerSource
  options : OpenOptions
  reading : ReadOptions
  interrupt : Option Interrupt
  state : Option OpenLayer

namespace Layer

def isOpen (l : Layer) : Bool := l.state.isSome

/-- What is reported: nothing to quiet readers. -/
def report (l : Layer) (ws : List Warning) : List Warning := if l.reading.quiet then [] else ws

def access (l : Layer) : Access := (l.state.map (·.access)).getD l.options.access

def opened (l : Layer) : Except Error OpenLayer :=
  match l.state with
  | some o => .ok o
  | none => .error .layerClosed

def withState (l : Layer) (o : OpenLayer) : Layer := { l with state := some o }

variable (f : Faults) (s : Store)

def name (l : Layer) : Except Error String := l.opened.map fun o => (s.table o.view.table).name

def fidColumn (l : Layer) : Except Error String :=
  l.opened.map fun o => (s.table o.view.table).fidColumn

def geometryKind (l : Layer) : Except Error String :=
  l.opened.map fun o =>
    ((s.table o.view.table).schema.geometryFields.head?.map (·.kind)).getD "None"

def geometryColumn (l : Layer) : Except Error String :=
  l.opened.map fun o =>
    ((s.table o.view.table).schema.geometryFields.head?.map (·.name)).getD ""

def extent (l : Layer) (force : Bool) : Except Error Envelope × Layer :=
  match l.state with
  | none => (.error .layerClosed, l)
  | some o =>
    let (e, view) := f.extentOf s o.view force
    (e, l.withState { o with view })

def count (l : Layer) : Except Error Int := l.opened.map fun o => f.countOf s o.view true

def can (l : Layer) (capability : String) : Bool :=
  l.state.any fun o => f.viewCan s o.view capability

def capabilities (l : Layer) : List LayerCapability :=
  LayerCapability.all.filter fun c => l.can f s c.name

def sourceCapabilities (l : Layer) : List SourceCapability :=
  SourceCapability.all.filter fun c => l.state.any fun o => f.sourceCan s o.connection c.name

def domain? (l : Layer) (name : String) : Except Panic (Except Error (Option (Domain Value))) :=
  match l.opened.map fun o => s.domain? o.connection name with
  | .error e => .ok (.error e)
  | .ok none => .ok (.ok none)
  | .ok (some d) => d.read.map fun d => .ok (some d)

def metadata (l : Layer) (domain : String) : Except Error OptionList :=
  l.opened.map fun o => (s.table o.view.table).metadataOf domain

def metadataItem (l : Layer) (key domain : String) : Except Error (Option String) :=
  (l.metadata s domain).map (·.find? key)

def setMetadata (l : Layer) (items : OptionList) (domain : String) : Except Error Unit × Store :=
  match l.state with
  | none => (.error .layerClosed, s)
  | some o =>
    match f.metadata with
    | some e => (.error e, s)
    | none => (.ok (), s.change o.view (·.setMetadata domain items))

def setMetadataItem (l : Layer) (key value domain : String) : Except Error Unit × Store :=
  match l.metadata s domain with
  | .error e => (.error e, s)
  | .ok items =>
    match items.set key value with
    | .error e => (.error e.error, s)
    | .ok items => l.setMetadata f s items domain

def lastWrite? (l : Layer) : Option Int := l.state.bind (·.lastWrite)

def described (l : Layer) : String :=
  let source := match l.source with
    | .name s => "Name(" ++ Text.quoted s ++ ")"
    | .query s => "Sql(" ++ Text.quoted s ++ ")"
  "VectorLayer \x7b dsn: " ++ Text.quoted l.dataSource ++ ", source: " ++ source ++ ", access: " ++
    l.access.name ++ ", open: " ++ (if l.isOpen then "true" else "false") ++ " \x7d"

end Layer

end FeatureLayer
