import FeatureLayer.Capability
import FeatureLayer.OptionList
import FeatureLayer.Record
import FeatureLayer.Schema
import FeatureLayer.Store.FidMap

namespace FeatureLayer

structure FeatureTable where
  name : String
  /-- What the identifier is called, empty if it has no name of its own. -/
  fidColumn : String
  schema : Schema
  records : FidMap Record
  /-- The identifier of the next record that brings none. -/
  nextFid : Int
  capabilities : List LayerCapability
  /-- The count to report whatever is stored. -/
  reportedCount : Option Int
  /-- Items by domain. -/
  metadata : List (String × OptionList)

namespace FeatureTable

def defaultCapabilities : List LayerCapability :=
  [.randomRead, .sequentialWrite, .randomWrite, .upsertFeature, .fastFeatureCount, .fastGetExtent,
    .fastSetNextByIndex, .createField, .deleteField, .reorderFields, .alterFieldDefn, .ignoreFields,
    .deleteFeature, .stringsAsUtf8]

def resultCapabilities : List LayerCapability :=
  [.randomRead, .fastFeatureCount, .fastGetExtent, .fastSetNextByIndex, .ignoreFields,
    .stringsAsUtf8]

def make (name : String) (schema : Schema) : FeatureTable :=
  ⟨name, "", schema, .empty, 1, defaultCapabilities, none, []⟩

instance : Inhabited FeatureTable := ⟨make "" .empty⟩

inductive Rejection where
  | shape
  | notNull (field : String)
  | unique (field : String)
  | exists (fid : Int)
  | fidRange
  | missing (fid : Int)
  deriving DecidableEq, Repr

namespace Rejection

def reason : Rejection → Refusal
  | missing _ => .nonExistingFeature
  | _ => .failure

def message : Rejection → String
  | shape => "feature does not match the layer definition"
  | notNull field => s!"NOT NULL constraint failed: {field}"
  | unique field => s!"UNIQUE constraint failed: {field}"
  | .exists fid => s!"feature {fid} already exists"
  | fidRange => "feature id out of range"
  | missing fid => s!"feature {fid} does not exist"

end Rejection

def unquoteDoubled : List Char → List Char
  | '\'' :: '\'' :: cs => '\'' :: unquoteDoubled cs
  | c :: cs => c :: unquoteDoubled cs
  | [] => []

def unquote? : List Char → Option String
  | '\'' :: cs =>
    if cs.getLast? = some '\'' then some (.ofList (unquoteDoubled cs.dropLast)) else none
  | _ => none

/-- The datum of a field's fallback literal; literals of other kinds count for nothing. -/
def fallback? (f : Field) : Option Datum := do
  let literal := Text.trim (← f.fallback).toList
  match f.kind with
  | .integer => (readInteger (-(Nat.pow 2 31 : Int)) ((Nat.pow 2 31 : Int) - 1) literal).map .integer
  | .integer64 => (readInteger (-(Nat.pow 2 63 : Int)) ((Nat.pow 2 63 : Int) - 1) literal).map .integer64
  | .real => (Binary.parse? literal).map .real
  | .text => (unquote? literal).map .text
  | _ => none

def fill (f : Field) (d : Datum) : Datum :=
  match d with
  | .unset => (fallback? f).getD .unset
  | d => d

def missingField? (s : Schema) (r : Record) : Option String :=
  let bare := (s.fields.zip r.data).find? fun (f, d) => !f.nullable && d.isAbsent
  let shapeless := (s.geometryFields.zip r.geometries).find? fun (g, x) => !g.nullable && x.isNone
  (bare.map (·.1.name)) <|> shapeless.map (·.1.name)

def duplicateField? (t : FeatureTable) (r : Record) : Option String :=
  ((t.schema.fields.zip r.data).zipIdx.find? fun ((f, d), i) =>
    f.unique && !d.isAbsent && t.records.values.any fun other =>
      other.fid != r.fid && other.data[i]?.any (·.same d)).map (·.1.1.name)

def prepare (t : FeatureTable) (r : Record) : Except Rejection Record :=
  if r.data.length ≠ t.schema.fields.length ∨
      r.geometries.length ≠ t.schema.geometryFields.length then .error .shape
  else
    let r := { r with data := List.zipWith fill t.schema.fields r.data }
    match missingField? t.schema r, t.duplicateField? r with
    | some field, _ => .error (.notNull field)
    | none, some field => .error (.unique field)
    | none, none => .ok r

def put (t : FeatureTable) (fid : Int) (r : Record) : FeatureTable :=
  { t with records := t.records.insert fid { r with fid := some fid } }

def maxFid : Int := (Nat.pow 2 63 : Int) - 1

/-- Adds a record under its identifier, or under the next free one. -/
def insert (t : FeatureTable) (r : Record) : Except Rejection (Int × FeatureTable) := do
  let r ← t.prepare r
  let fid := r.given?.getD t.nextFid
  if r.given?.isSome && t.records.contains fid then .error (.exists fid)
  else if maxFid ≤ fid then .error .fidRange
  else .ok (fid, { t.put fid r with nextFid := max t.nextFid (fid + 1) })

def replace (t : FeatureTable) (r : Record) : Except Rejection (Int × FeatureTable) :=
  let fid := r.fid.getD Record.missingFid
  if t.records.contains fid then do
    let r ← t.prepare r
    .ok (fid, t.put fid r)
  else .error (.missing fid)

def upsert (t : FeatureTable) (r : Record) : Except Rejection (Int × FeatureTable) :=
  if r.fid.any t.records.contains then t.replace r else t.insert r

def delete (t : FeatureTable) (fid : Int) : Except Rejection (Int × FeatureTable) :=
  if t.records.contains fid then .ok (fid, { t with records := t.records.erase fid })
  else .error (.missing fid)

def metadataOf (t : FeatureTable) (domain : String) : OptionList :=
  ((t.metadata.find? (·.1 = domain)).map (·.2)).getD .empty

def setMetadata (t : FeatureTable) (domain : String) (items : OptionList) : FeatureTable :=
  { t with metadata := (domain, items) :: t.metadata.filter (·.1 ≠ domain) }

/-- The least range that holds both; beside a number, what is none does not count. -/
def joinExtent (a b : Envelope) : Envelope :=
  let least (u v : Double) := if u.isNaN || v.lt u then v else u
  let greatest (u v : Double) := if u.isNaN || u.lt v then v else u
  ⟨least a.minX b.minX, least a.minY b.minY, greatest a.maxX b.maxX, greatest a.maxY b.maxY⟩

def extent? (t : FeatureTable) : Option Envelope :=
  let all := (t.records.values.filterMap fun r => r.geometries.head?.join).filter (!·.isEmpty)
  match all with
  | [] => none
  | g :: gs => some (gs.foldl (fun e h => joinExtent e h.envelope) g.envelope)

def spatialRef (t : FeatureTable) (index : Nat) : Except Error String :=
  match t.schema.geometryFields[index]? with
  | none => .error (.badArgument s!"geometry field index {index} out of range")
  | some g =>
    match g.spatialRef with
    | some s => .ok s
    | none =>
      .error (.refused .unsupportedSrs "OGR_GFld_GetSpatialRef"
        "geometry field has no spatial reference")

end FeatureTable

end FeatureLayer
