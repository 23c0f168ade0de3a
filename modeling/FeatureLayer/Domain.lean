import FeatureLayer.Value.Reading

namespace FeatureLayer

inductive SplitPolicy where
  | default
  | duplicate
  | geometryRatio
  deriving DecidableEq, Repr

namespace SplitPolicy

def name : SplitPolicy → String
  | default => "DEFAULT_VALUE"
  | duplicate => "DUPLICATE"
  | geometryRatio => "GEOMETRY_RATIO"

def ofName? (s : String) : Option SplitPolicy :=
  [default, duplicate, geometryRatio].find? (·.name = s)

end SplitPolicy

inductive MergePolicy where
  | default
  | sum
  | geometryWeighted
  deriving DecidableEq, Repr

namespace MergePolicy

def name : MergePolicy → String
  | default => "DEFAULT_VALUE"
  | sum => "SUM"
  | geometryWeighted => "GEOMETRY_WEIGHTED"

def ofName? (s : String) : Option MergePolicy := [default, sum, geometryWeighted].find? (·.name = s)

end MergePolicy

/-- The constraint, with bounds as data or as values. An absent bound is open. -/
inductive Constraint (Bound : Type) where
  | coded (codes : List (String × Option String))
  | range (least : Bound) (withLeast : Bool) (greatest : Bound) (withGreatest : Bool)
  | glob (pattern : String)

namespace Constraint

def kindName {B : Type} : Constraint B → String
  | coded _ => "coded"
  | range .. => "range"
  | glob _ => "glob"

def mapBounds {B C : Type} (f : B → Except Panic C) : Constraint B → Except Panic (Constraint C)
  | coded codes => .ok (coded codes)
  | range lo withLo hi withHi => do
    let lo ← f lo
    let hi ← f hi
    .ok (range lo withLo hi withHi)
  | glob pattern => .ok (glob pattern)

def meaning? {B : Type} (c : Constraint B) (code : String) : Option String :=
  match c with
  | coded codes => (codes.find? (·.1 = code)).bind (·.2)
  | _ => none

end Constraint

structure Domain (Bound : Type) where
  name : String
  description : String
  kind : FieldKind
  subkind : Subkind
  split : SplitPolicy
  merge : MergePolicy
  constraint : Constraint Bound

def Domain.read (d : Domain Datum) : Except Panic (Domain Value) :=
  (d.constraint.mapBounds (Value.read d.kind d.subkind)).map fun constraint => { d with constraint }

end FeatureLayer
