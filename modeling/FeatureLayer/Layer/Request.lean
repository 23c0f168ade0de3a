import FeatureLayer.Layer.Overlay
import FeatureLayer.Layer.Reading
import FeatureLayer.Layer.Transaction
import FeatureLayer.Layer.Writing
import FeatureLayer.Reply

namespace FeatureLayer

inductive LayerRequest where
  | reopen (access : Access)
  | close
  | configure (reading : ReadOptions)
  /-- From now on long reads ask whether to stop, and count from one again; or they ask no more. -/
  | setInterrupt (answer : Option (Nat → Bool))
  | extent (force : Bool)
  | setMetadata (items : OptionList) (domain : String)
  | setMetadataItem (key value domain : String)
  | setPredicate (text : String)
  | setSpatial (g : Option Geometry)
  | setSpatialWkt (text : String)
  | setSpatialGeometry (g : Geometry)
  | setSpatialRect (e : Envelope)
  | setIgnored (names : List String)
  | setSelected (names : List String)
  | reset
  | next
  | fetch (size : FetchSize)
  | seek (index : Int)
  | lookup (fid : Int)
  | create (row : Row)
  | replace (row : Row)
  | upsert (row : Row)
  | delete (fid : Int)
  | sync
  | begin (force : Bool)
  | commit
  | rollback

inductive Ending where
  | commit
  | rollback
  /-- The work stops without a word. -/
  | abandon
  deriving DecidableEq, Repr

/-- What a layer is asked at the end: work that nobody commits is undone. -/
def Ending.request : Ending → LayerRequest
  | commit => .commit
  | rollback | abandon => .rollback

namespace Layer

structure Outcome where
  value : Except Error Reply
  warnings : List Warning
  layer : Layer
  store : Store

variable (f : Faults) (s : Store)

def ask (l : Layer) : LayerRequest → Outcome
  | .reopen access =>
    let (e, ws, l, s) := l.reopen f s access
    ⟨e.map fun _ => .done, ws, l, s⟩
  | .close =>
    let (l, s) := l.close s
    ⟨.ok .done, [], l, s⟩
  | .configure reading => ⟨.ok .done, [], { l with reading }, s⟩
  | .setInterrupt answer => ⟨.ok .done, [], { l with interrupt := answer.map (⟨·, 0⟩) }, s⟩
  | .extent force =>
    let (e, l) := l.extent f s force
    ⟨e.map .extent, [], l, s⟩
  | .setMetadata items domain =>
    let (e, s) := l.setMetadata f s items domain
    ⟨e.map fun _ => .done, [], l, s⟩
  | .setMetadataItem key value domain =>
    let (e, s) := l.setMetadataItem f s key value domain
    ⟨e.map fun _ => .done, [], l, s⟩
  | .setPredicate text =>
    let (e, ws, l) := l.setPredicate f s text
    ⟨e.map fun _ => .done, ws, l, s⟩
  | .setSpatial g =>
    let (e, l) := l.setSpatial (g.map .geometry)
    ⟨e.map fun _ => .done, [], l, s⟩
  | .setSpatialWkt text =>
    let (e, l) := l.setSpatialWkt f text
    ⟨e.map fun _ => .done, [], l, s⟩
  | .setSpatialGeometry g =>
    let (e, l) := l.setSpatialGeometry f g
    ⟨e.map fun _ => .done, [], l, s⟩
  | .setSpatialRect r =>
    let (e, l) := l.setSpatialRect r
    ⟨e.map fun _ => .done, [], l, s⟩
  | .setIgnored names =>
    let (e, l) := l.setIgnored f s names
    ⟨e.map fun _ => .done, [], l, s⟩
  | .setSelected names =>
    let (e, l) := l.setSelected f s names
    ⟨e.map fun _ => .done, [], l, s⟩
  | .reset =>
    let (e, l) := l.reset
    ⟨e.map fun _ => .done, [], l, s⟩
  | .next =>
    let (e, l) := l.next f s
    ⟨e.map .row, [], l, s⟩
  | .fetch size =>
    let (e, ws, l) := l.fetch f s size
    ⟨e.map .table, ws, l, s⟩
  | .seek index =>
    let (e, l) := l.seek f s index
    ⟨e.map fun _ => .done, [], l, s⟩
  | .lookup fid =>
    let (e, ws, l) := l.lookup f s fid
    ⟨e.map .row, ws, l, s⟩
  | .create row =>
    let (e, l, s) := l.create f s row
    ⟨e.map .fid, [], l, s⟩
  | .replace row =>
    let (e, l, s) := l.replace f s row
    ⟨e.map .fid, [], l, s⟩
  | .upsert row =>
    let (e, l, s) := l.upsert f s row
    ⟨e.map .fid, [], l, s⟩
  | .delete fid =>
    let (b, ws, l, s) := l.delete f s fid
    ⟨.ok (.flag b), ws, l, s⟩
  | .sync => ⟨(l.sync f).map fun _ => .done, [], l, s⟩
  | .begin force =>
    let (b, ws, l, s) := l.begin f s force
    ⟨.ok (.flag b), ws, l, s⟩
  | .commit =>
    let (b, ws, l, s) := l.commit f s
    ⟨.ok (.flag b), ws, l, s⟩
  | .rollback =>
    let (b, ws, l, s) := l.rollback f s
    ⟨.ok (.flag b), ws, l, s⟩

def decoded (l : Layer) : LayerRequest → List Record
  | .next => (l.state.bind fun o => (f.next s o.view).1).toList
  | .fetch size => l.decodedByFetch f s size
  | .lookup fid => l.decodedByLookup f s fid
  | _ => []

/-- A request stops the program if decoding one of its records does. -/
def check (l : Layer) (r : LayerRequest) : Except Panic Unit :=
  match l.state with
  | none => .ok ()
  | some o => (l.decoded f s r).forM (l.plan o).check

end Layer

end FeatureLayer
