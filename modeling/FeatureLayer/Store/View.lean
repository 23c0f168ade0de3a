import FeatureLayer.Geometry.Plane
import FeatureLayer.Predicate.Parser
import FeatureLayer.Store.FeatureTable
import FeatureLayer.Table.Plan
/-!
Views of a table: filters, fields left out and a place in the reading order. Records are read in the
order of their identifiers, and the place is the identifier last passed, so that writes by others
neither repeat nor skip a record.
-/

namespace FeatureLayer

inductive SpatialFilter where
  | geometry (g : Geometry)
  | rect (e : Envelope)

def SpatialFilter.admits (f : SpatialFilter) (g : Geometry) : Bool :=
  !g.isEmpty && match f with
    | rect e => e.intersects g.envelope
    | geometry h => h.envelope.intersects g.envelope && h.intersects g

structure View where
  /-- Numbers of the table and of the data source in their store. -/
  table : Nat
  source : Nat
  writable : Bool
  isResultSet : Bool
  predicate : Option Predicate
  spatial : Option SpatialFilter
  ignored : IgnoredFields
  /-- The identifier last passed; none at the start. -/
  position : Option Int
  lastError : String

namespace View

def make (table source : Nat) (writable isResultSet : Bool) : View :=
  ⟨table, source, writable, isResultSet, none, none, .none, none, ""⟩

def admits (v : View) (r : Record) : Bool :=
  v.predicate.all (·.holds (r.fid.getD Record.missingFid) r.data) &&
    v.spatial.all fun f => (r.geometries.head?.join).any f.admits

def project (v : View) (r : Record) : Record :=
  { r with
    data := v.ignored.attributes.foldl (fun ds i => ds.set i .unset) r.data
    geometries := v.ignored.geometries.foldl (fun gs i => gs.set i none) r.geometries }

def selected (t : FeatureTable) (v : View) : List Record := t.records.values.filter v.admits

def capabilities (t : FeatureTable) (v : View) : List LayerCapability :=
  let writing : List LayerCapability :=
    [.sequentialWrite, .randomWrite, .upsertFeature, .deleteFeature, .createField, .deleteField,
      .reorderFields, .alterFieldDefn, .rename]
  if v.writable then t.capabilities else t.capabilities.filter (!writing.contains ·)

/-- The number of records that pass the filters, `-1` if it is not at hand and not to be forced. -/
def count (t : FeatureTable) (v : View) (force : Bool) : Int :=
  match t.reportedCount with
  | some n => n
  | none =>
    if force || (v.capabilities t).contains .fastFeatureCount then (selected t v).length else -1

def schema (t : FeatureTable) (v : View) : Schema where
  fields := t.schema.fields.zipIdx.map fun (f, i) =>
    { f with ignored := f.ignored || v.ignored.attributes.contains i }
  geometryFields := t.schema.geometryFields.zipIdx.map fun (g, i) =>
    { g with ignored := v.ignored.geometries.contains i, spatialRef := none }

def rewind (v : View) : View := { v with position := none }

/-- The next record that passes the filters. After the last one the place is the end of the table,
wherever it was. -/
def next (t : FeatureTable) (v : View) : Option Record × View :=
  match (t.records.after v.position).find? fun e => v.admits e.2 with
  | some (fid, r) => (some (v.project r), { v with position := some fid })
  | none => (none, { v with position := t.records.lastFid? <|> v.position })

def record? (t : FeatureTable) (v : View) (fid : Int) : Option Record :=
  (t.records.find? fid).map v.project

def refuse {α : Type} (v : View) (reason : Refusal) (method detail : String) :
    Except Error α × View :=
  (.error (.refused reason method detail), { v with lastError := detail })

def seek (t : FeatureTable) (v : View) (index : Int) : Except Error Unit × View :=
  if index < 0 then
    v.refuse .nonExistingFeature "OGR_L_SetNextByIndex" s!"invalid index {index}"
  else
    let fids := (selected t v).map fun r => r.fid.getD Record.missingFid
    let position :=
      if index = 0 then none else some (fids[index.toNat - 1]?.getD FeatureTable.maxFid)
    (.ok (), { v with position })

def vocabulary (t : FeatureTable) : Vocabulary := ⟨t.schema.fields, t.fidColumn⟩

/-- Sets the predicate that a text states, or none for no text or a blank one. A text that states
none changes nothing but the place. -/
def setPredicate (t : FeatureTable) (v : View) (text : Option String) : Except Error Unit × View :=
  let v := v.rewind
  match text.filter (!Text.isBlank ·) with
  | none => (.ok (), { v with predicate := none })
  | some s =>
    match Predicate.parse (vocabulary t) s with
    | .ok p => (.ok (), { v with predicate := some p })
    | .error e =>
      let e : Error := .refused .corruptData "OGR_L_SetAttributeFilter" e.message
      (.error e, { v with lastError := e.message })

def setSpatial (v : View) (f : Option SpatialFilter) : View := { v.rewind with spatial := f }

/-- Finds the field of a name: one of the words for the first geometry, an attribute, or a geometry
that has a name. The word for styles means nothing here. -/
def ignoredField? (s : Schema) (name : String) : Option IgnoredFields :=
  if Text.sameWord name "OGR_STYLE" then some .none
  else if Text.sameWord name "OGR_GEOMETRY" && !s.geometryFields.isEmpty then some ⟨[], [0]⟩
  else
    match s.fieldIndex? name with
    | some i => some ⟨[i], []⟩
    | none =>
      (s.geometryFields.findIdx? fun g => !g.name.isEmpty && g.name = name).map fun i => ⟨[], [i]⟩

def ignore (t : FeatureTable) (v : View) (names : List String) : Except Error Unit × View :=
  match names.find? fun n => (ignoredField? t.schema n).isNone with
  | some name => v.refuse .failure "OGR_L_SetIgnoredFields" s!"no such field '{name}'"
  | none =>
    let found := names.filterMap (ignoredField? t.schema)
    (.ok (), { v with ignored := ⟨found.flatMap (·.attributes), found.flatMap (·.geometries)⟩ })

def extent (t : FeatureTable) (v : View) (force : Bool) : Except Error Envelope × View :=
  if !force && !(v.capabilities t).contains .fastGetExtent then
    v.refuse .failure "OGR_L_GetExtent" "extent is not available without a scan"
  else
    match t.extent? with
    | some e => (.ok e, v)
    | none => v.refuse .failure "OGR_L_GetExtent" "layer has no geometries"

def write (t : FeatureTable) (v : View) (capability : LayerCapability) (method : String)
    (act : FeatureTable → Except FeatureTable.Rejection (Int × FeatureTable)) :
    Except Error Int × View × FeatureTable :=
  let refuse (reason : Refusal) (detail : String) : Except Error Int × View × FeatureTable :=
    let (e, v) := v.refuse reason method detail
    (e, v, t)
  if !v.writable then refuse .unsupportedOperation "layer is opened read-only"
  else if !t.capabilities.contains capability then
    refuse .unsupportedOperation s!"layer does not support {capability.name}"
  else
    match act t with
    | .ok (fid, t) => (.ok fid, v, t)
    | .error e => refuse e.reason e.message

def create (t : FeatureTable) (v : View) (r : Record) : Except Error Int × View × FeatureTable :=
  v.write t .sequentialWrite "OGR_L_CreateFeature" (·.insert r)

def replace (t : FeatureTable) (v : View) (r : Record) : Except Error Int × View × FeatureTable :=
  v.write t .randomWrite "OGR_L_SetFeature" (·.replace r)

def upsert (t : FeatureTable) (v : View) (r : Record) : Except Error Int × View × FeatureTable :=
  v.write t .upsertFeature "OGR_L_UpsertFeature" (·.upsert r)

def delete (t : FeatureTable) (v : View) (fid : Int) : Except Error Int × View × FeatureTable :=
  v.write t .deleteFeature "OGR_L_DeleteFeature" (·.delete fid)

end View

end FeatureLayer
