import FeatureLayer.Layer.Basic
import FeatureLayer.Row.Encoding

namespace FeatureLayer

namespace Layer

variable (f : Faults) (s : Store)

def encode (l : Layer) (o : OpenLayer) (row : Row) : Except Error Record :=
  let t := s.table o.view.table
  RowTarget.encode ⟨o.schema, t.name, t.fidColumn, l.reading.unnamedGeometry⟩ f.codec row

/-- Hands a record to the store; the layer remembers the identifier under which it went in. -/
def store (l : Layer) (o : OpenLayer) (fault : Option Error) (method : String)
    (act : FeatureTable → View → Except Error Int × View × FeatureTable) :
    Except Error Int × Layer × Store :=
  match Faults.write s fault o.view act with
  | (.ok fid, view, s) => (.ok fid, l.withState { o with view, lastWrite := some fid }, s)
  | (.error e, view, s) => (.error (.write method e.detail), l.withState { o with view }, s)

def create (l : Layer) (row : Row) : Except Error Int × Layer × Store :=
  match l.state with
  | none => (.error .layerClosed, l, s)
  | some o =>
    match l.encode f s o row with
    | .error e => (.error e, l, s)
    | .ok r => l.store s o f.create "OGR_L_CreateFeature" (fun t v => v.create t r)

def replace (l : Layer) (row : Row) : Except Error Int × Layer × Store :=
  match l.state with
  | none => (.error .layerClosed, l, s)
  | some o =>
    match l.encode f s o row with
    | .error e => (.error e, l, s)
    | .ok r =>
      if r.fid.isNone then (.error (.write "OGR_L_SetFeature" "row has no FID"), l, s)
      else l.store s o f.replace "OGR_L_SetFeature" (fun t v => v.replace t r)

def upsert (l : Layer) (row : Row) : Except Error Int × Layer × Store :=
  match l.state with
  | none => (.error .layerClosed, l, s)
  | some o =>
    if !f.viewCan s o.view "UpsertFeature" then
      (.error (.capabilityUnsupported "UpsertFeature" (s.table o.view.table).name), l, s)
    else
      match l.encode f s o row with
      | .error e => (.error e, l, s)
      | .ok r => l.store s o f.upsert "OGR_L_UpsertFeature" (fun t v => v.upsert t r)

def delete (l : Layer) (fid : Int) : Bool × List Warning × Layer × Store :=
  match l.state with
  | none => (false, [], l, s)
  | some o =>
    if o.access ≠ .readWrite || !f.viewCan s o.view "DeleteFeature" then (false, [], l, s)
    else
      match Faults.write s f.delete o.view (fun t v => v.delete t fid) with
      | (.ok _, view, s) => (true, [], l.withState { o with view }, s)
      | (.error e, view, s) =>
        (false, l.report [.deleteFailed fid e], l.withState { o with view }, s)

def sync (l : Layer) : Except Error Unit :=
  match l.state, f.sync with
  | none, _ => .error .layerClosed
  | some _, some e => .error (.write "OGR_L_SyncToDisk" e.detail)
  | some _, none => .ok ()

end Layer

end FeatureLayer
