import FeatureLayer.Overlay
import FeatureLayer.Store.Query
import FeatureLayer.Store.Transaction
/-!
A store that answers some calls with given errors, before it does anything, and the others as it
would. Layers call the store through this, so that what they do about any failure can be said and
tried.
-/

namespace FeatureLayer

inductive QueryFault where
  | error (e : Error)
  /-- The query gives no result set. -/
  | noResult
  deriving DecidableEq, Repr

/-- What records that are read lose. -/
inductive RecordFault where
  | nothing
  | identifier
  | content
  deriving DecidableEq, Repr

structure Faults where
  opening : Option Error
  layer : Option Error
  query : Option QueryFault
  begin : Option Error
  commit : Option Error
  rollback : Option Error
  /-- Answers every question for a reference system. -/
  spatialRef : Option (Except Error String)
  extent : Option Error
  /-- What the call of that number within one operation is answered when it sets that predicate. -/
  predicate : Nat → Option String → Option Error
  ignore : Option Error
  seek : Option Error
  create : Option Error
  replace : Option Error
  upsert : Option Error
  delete : Option Error
  sync : Option Error
  metadata : Option Error
  overlay : Option Error
  ofWkb : Option Error
  ofWkt : Option Error
  toWkb : Flavor → Option Error
  toWkt : Flavor → Option Error
  count : Option Int
  /-- Answers for capabilities of exactly these names. -/
  capabilities : List (String × Bool)
  /-- What the layer calls its last error. -/
  lastError : Option String
  record : RecordFault

namespace Faults

def none : Faults where
  opening := .none
  layer := .none
  query := .none
  begin := .none
  commit := .none
  rollback := .none
  spatialRef := .none
  extent := .none
  predicate _ _ := .none
  ignore := .none
  seek := .none
  create := .none
  replace := .none
  upsert := .none
  delete := .none
  sync := .none
  metadata := .none
  overlay := .none
  ofWkb := .none
  ofWkt := .none
  toWkb _ := .none
  toWkt _ := .none
  count := .none
  capabilities := []
  lastError := .none
  record := .nothing

instance : Inhabited Faults := ⟨none⟩

def orElse {α : Type} (e : Option Error) (answer : Except Error α) : Except Error α :=
  match e with
  | some e => .error e
  | .none => answer

def codec (f : Faults) : GeometryCodec where
  ofWkb bs := orElse f.ofWkb (GeometryCodec.plain.ofWkb bs)
  ofWkt s := orElse f.ofWkt (GeometryCodec.plain.ofWkt s)
  toWkb g order flavor := orElse (f.toWkb flavor) (GeometryCodec.plain.toWkb g order flavor)
  toWkt g flavor := orElse (f.toWkt flavor) (GeometryCodec.plain.toWkt g flavor)

variable (f : Faults) (s : Store)

def connect (name : String) (access : Access) : Except Error Connection :=
  orElse f.opening (s.connect name access)

def layerByName (c : Connection) (name : String) : Except Error View :=
  orElse f.layer (s.layerByName c name)

def runQuery (c : Connection) (text : String) (spatial : Option Geometry) (dialect : Option String) :
    Except Error (Option View) × Connection × Store :=
  match f.query with
  | some (.error e) => (.error e, c, s)
  | some .noResult => (.ok .none, c, s)
  | .none =>
    let (v, c, s) := s.query c text spatial dialect
    (v.map some, c, s)

def spatialRefOf (v : View) (index : Nat) : Except Error String :=
  f.spatialRef.getD ((s.table v.table).spatialRef index)

def extentOf (v : View) (force : Bool) : Except Error Envelope × View :=
  match f.extent with
  | some e => (.error e, v)
  | .none => v.extent (s.table v.table) force

def countOf (v : View) (force : Bool) : Int := f.count.getD (v.count (s.table v.table) force)

def viewCan (v : View) (capability : String) : Bool :=
  ((f.capabilities.find? (·.1 = capability)).map (·.2)).getD (s.viewCan v capability)

def sourceCan (c : Connection) (capability : String) : Bool :=
  ((f.capabilities.find? (·.1 = capability)).map (·.2)).getD (s.sourceCan c capability)

def setPredicate (call : Nat) (v : View) (text : Option String) : Except Error Unit × View :=
  match f.predicate call text with
  | some e => (.error e, v)
  | .none => v.setPredicate (s.table v.table) text

def ignoreFields (v : View) (names : List String) : Except Error Unit × View :=
  match f.ignore with
  | some e => (.error e, v)
  | .none => v.ignore (s.table v.table) names

def seekTo (v : View) (index : Int) : Except Error Unit × View :=
  match f.seek with
  | some e => (.error e, v)
  | .none => v.seek (s.table v.table) index

def spoil (r : Record) : Record :=
  match f.record with
  | .nothing => r
  | .identifier => { r with fid := .none }
  | .content => { r with data := [], geometries := [] }

def next (v : View) : Option Record × View :=
  let (r, v) := v.next (s.table v.table)
  (r.map f.spoil, v)

def write (fault : Option Error) (v : View)
    (act : FeatureTable → View → Except Error Int × View × FeatureTable) :
    Except Error Int × View × Store :=
  match fault with
  | some e => (.error e, v, s)
  | .none => s.write v act

def beginOn (c : Connection) (force : Bool) : Except Error Unit × Connection × Store :=
  match f.begin with
  | some e => (.error e, c, s)
  | .none => s.begin c force

def commitOn (c : Connection) : Except Error Unit × Connection × Store :=
  match f.commit with
  | some e => (.error e, c, s)
  | .none => s.commit c

def rollbackOn (c : Connection) : Except Error Unit × Connection × Store :=
  match f.rollback with
  | some e => (.error e, c, s)
  | .none => s.rollback c

def lastErrorOf (v : View) : String := f.lastError.getD v.lastError

def runOverlay (A : RegionAlgebra) (kind : OverlayKind) (input method result : View)
    (o : Overlay.Options) (answer : Nat → Bool) : Overlay.Outcome :=
  match f.overlay with
  | some e => ⟨.error e, [], input, result, s⟩
  | .none => Overlay.run A kind s input method result o answer

end Faults

end FeatureLayer
