import FeatureLayer.OptionList

namespace FeatureLayer

inductive Access where
  | readOnly
  | readWrite
  deriving DecidableEq, Repr

namespace Access

def name : Access → String
  | readOnly => "ReadOnly"
  | readWrite => "ReadWrite"

def openBits : Access → Nat
  | readOnly => 0x44
  | readWrite => 0x45

def defaultBits : Nat := 0

end Access

inductive LayerSource where
  | name (s : String)
  /-- The result of a query, released when the layer is closed. -/
  | query (s : String)
  deriving DecidableEq, Repr

namespace LayerSource

def text : LayerSource → String
  | name s | query s => s

def isQuery : LayerSource → Bool
  | query _ => true
  | name _ => false

/-- A text that starts with the word `SELECT` and more after white space is a query. -/
def detect (s : String) : LayerSource :=
  let cs := s.toList.dropWhile Text.isWhiteSpace
  if (cs.take 6).map Char.toUpper = "SELECT".toList && (cs.drop 6).head?.any Text.isWhiteSpace
  then query s else name s

end LayerSource

structure OpenOptions where
  access : Access
  driver : OptionList
  /-- A geometry as text, which the records have to meet. -/
  spatialFilter : Option String
  dialect : Option String
  deriving DecidableEq

end FeatureLayer
