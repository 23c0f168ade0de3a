import FeatureLayer.Text.Character

namespace FeatureLayer

inductive LayerCapability where
  | randomRead
  | sequentialWrite
  | randomWrite
  | upsertFeature
  | fastSpatialFilter
  | fastFeatureCount
  | fastGetExtent
  | fastSetNextByIndex
  | createField
  | deleteField
  | reorderFields
  | alterFieldDefn
  | ignoreFields
  | deleteFeature
  | rename
  | stringsAsUtf8
  | curveGeometries
  | transactions
  deriving DecidableEq, Repr

namespace LayerCapability

def all : List LayerCapability :=
  [randomRead, sequentialWrite, randomWrite, upsertFeature, fastSpatialFilter, fastFeatureCount,
    fastGetExtent, fastSetNextByIndex, createField, deleteField, reorderFields, alterFieldDefn,
    ignoreFields, deleteFeature, rename, stringsAsUtf8, curveGeometries, transactions]

def name : LayerCapability → String
  | randomRead => "RandomRead"
  | sequentialWrite => "SequentialWrite"
  | randomWrite => "RandomWrite"
  | upsertFeature => "UpsertFeature"
  | fastSpatialFilter => "FastSpatialFilter"
  | fastFeatureCount => "FastFeatureCount"
  | fastGetExtent => "FastGetExtent"
  | fastSetNextByIndex => "FastSetNextByIndex"
  | createField => "CreateField"
  | deleteField => "DeleteField"
  | reorderFields => "ReorderFields"
  | alterFieldDefn => "AlterFieldDefn"
  | ignoreFields => "IgnoreFields"
  | deleteFeature => "DeleteFeature"
  | rename => "Rename"
  | stringsAsUtf8 => "StringsAsUTF8"
  | curveGeometries => "CurveGeometries"
  | transactions => "Transactions"

def ofName? (s : String) : Option LayerCapability := all.find? fun c => Text.sameWord c.name s

def bit (c : LayerCapability) : Nat := Nat.pow 2 (all.findIdx (· = c))

def ofBit? (n : Nat) : Option LayerCapability := all.find? (·.bit = n)

end LayerCapability

inductive SourceCapability where
  | createLayer
  | deleteLayer
  | transactions
  | emulatedTransactions
  deriving DecidableEq, Repr

namespace SourceCapability

def all : List SourceCapability := [createLayer, deleteLayer, transactions, emulatedTransactions]

def name : SourceCapability → String
  | createLayer => "CreateLayer"
  | deleteLayer => "DeleteLayer"
  | transactions => "Transactions"
  | emulatedTransactions => "EmulatedTransactions"

def bit (c : SourceCapability) : Nat := Nat.pow 2 (all.findIdx (· = c))

def ofBit? (n : Nat) : Option SourceCapability := all.find? (·.bit = n)

end SourceCapability

end FeatureLayer
