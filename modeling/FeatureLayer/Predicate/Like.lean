import FeatureLayer.Text.Character

namespace FeatureLayer

def anyRest {α : Type} (p : List α → Bool) : List α → Bool
  | [] => p []
  | a :: as => p (a :: as) || anyRest p as

/-- Whether a text matches a pattern; characters match when `lower` takes them to the same. -/
def like {κ : Type} [DecidableEq κ] (lower : Char → κ) : (pattern text : List Char) → Bool
  | [], text => text.isEmpty
  | '%' :: ps, text => anyRest (like lower ps) text
  | '_' :: _, [] => false
  | '_' :: ps, _ :: text => like lower ps text
  | _ :: _, [] => false
  | p :: ps, c :: text => lower c = lower p && like lower ps text

end FeatureLayer
