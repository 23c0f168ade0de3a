import FeatureLayer.Record
import FeatureLayer.Table

namespace FeatureLayer

inductive Reply where
  | done
  | flag (b : Bool)
  | fid (n : Int)
  | extent (e : Envelope)
  | record (r : Option Record)
  | row (r : Option Row)
  | table (t : Table)

end FeatureLayer
