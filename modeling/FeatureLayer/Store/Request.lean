import FeatureLayer.Reply
import FeatureLayer.Store.Query
import FeatureLayer.Store.Transaction

namespace FeatureLayer

inductive ViewRequest where
  | setCapabilities (cs : List LayerCapability)
  | setReportedCount (n : Option Int)
  | setFidColumn (name : String)
  | extent (force : Bool)
  | setPredicate (text : Option String)
  | setSpatial (filter : Option SpatialFilter)
  | ignore (names : List String)
  | rewind
  | next
  | seek (index : Int)
  | create (r : Record)
  | replace (r : Record)
  | upsert (r : Record)
  | delete (fid : Int)

inductive ConnectionRequest where
  | setTransactions (support : TransactionSupport)
  | addDomain (d : Domain Datum)
  | begin (force : Bool)
  | commit
  | rollback

namespace Store

variable (s : Store)

def askView (v : View) : ViewRequest → Except Error Reply × View × Store
  | .setCapabilities capabilities => (.ok .done, v, s.change v ({ · with capabilities }))
  | .setReportedCount reportedCount => (.ok .done, v, s.change v ({ · with reportedCount }))
  | .setFidColumn fidColumn => (.ok .done, v, s.change v ({ · with fidColumn }))
  | .extent force =>
    let (e, v) := v.extent (s.table v.table) force
    (e.map .extent, v, s)
  | .setPredicate text =>
    let (e, v) := v.setPredicate (s.table v.table) text
    (e.map fun _ => .done, v, s)
  | .setSpatial filter => (.ok .done, v.setSpatial filter, s)
  | .ignore names =>
    let (e, v) := v.ignore (s.table v.table) names
    (e.map fun _ => .done, v, s)
  | .rewind => (.ok .done, v.rewind, s)
  | .next =>
    let (r, v) := v.next (s.table v.table)
    (.ok (.record r), v, s)
  | .seek index =>
    let (e, v) := v.seek (s.table v.table) index
    (e.map fun _ => .done, v, s)
  | .create r =>
    let (e, v, s) := s.write v fun t v => v.create t r
    (e.map .fid, v, s)
  | .replace r =>
    let (e, v, s) := s.write v fun t v => v.replace t r
    (e.map fun _ => .done, v, s)
  | .upsert r =>
    let (e, v, s) := s.write v fun t v => v.upsert t r
    (e.map .fid, v, s)
  | .delete fid =>
    let (e, v, s) := s.write v fun t v => v.delete t fid
    (e.map fun _ => .done, v, s)

def askConnection (c : Connection) : ConnectionRequest → Except Error Reply × Connection × Store
  | .setTransactions support => (.ok .done, c, s.setTransactions c support)
  | .addDomain d => (.ok .done, c, s.addDomain c d)
  | .begin force =>
    let (e, c, s) := s.begin c force
    (e.map fun _ => .done, c, s)
  | .commit =>
    let (e, c, s) := s.commit c
    (e.map fun _ => .done, c, s)
  | .rollback =>
    let (e, c, s) := s.rollback c
    (e.map fun _ => .done, c, s)

end Store

end FeatureLayer
