import FeatureLayer.Datum
import FeatureLayer.Geometry.Basic

namespace FeatureLayer

structure Record where
  /-- None when the identifier is still to be assigned. -/
  fid : Option Int
  data : List Datum
  geometries : List (Option Geometry)

namespace Record

def blank (fields geometryFields : Nat) : Record :=
  ⟨none, List.replicate fields .unset, List.replicate geometryFields none⟩

def missingFid : Int := -1

def fidOf (n : Int) : Option Int := if n = missingFid then none else some n

def given? (r : Record) : Option Int := r.fid.bind fidOf

end Record

end FeatureLayer
