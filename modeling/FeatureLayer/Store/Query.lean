import FeatureLayer.Store.Basic
/-!
Queries. `SELECT * FROM` a table, with a predicate after `WHERE` or without one, is all there is.
A result set is a table of its own, which later writes do not reach.
-/

namespace FeatureLayer

structure Query where
  table : String
  predicate : Option String
  deriving DecidableEq, Repr

namespace Query

def word (cs : List Char) : List Char × Option (List Char) :=
  match cs.dropWhile (!Text.isWhiteSpace ·) with
  | [] => (cs, none)
  | _ :: rest => (cs.takeWhile (!Text.isWhiteSpace ·), some rest)

def strip (p : Char → Bool) (cs : List Char) : List Char :=
  ((cs.dropWhile p).reverse.dropWhile p).reverse

def isWord (cs : List Char) (w : String) : Bool := Text.sameWord (.ofList cs) w

/-- Reads a query; semicolons at its end say nothing. Single spaces stand between the first
words. -/
def parse? (s : String) : Option Query := do
  let cs := ((Text.trim s.toList).reverse.dropWhile (· = ';')).reverse
  let (select, cs) := word cs
  let (star, cs) := word (← cs)
  let (from_, cs) := word (← cs)
  if !isWord select "SELECT" || star ≠ ['*'] || !isWord from_ "FROM" then none
  else
    let rest := Text.trim (← cs)
    let name (cs : List Char) : String := .ofList (strip (· = '"') cs)
    match word rest with
    | (table, none) => some ⟨name table, none⟩
    | (table, some tail) =>
      let tail := tail.dropWhile Text.isWhiteSpace
      if isWord (tail.take 5) "WHERE" then
        some ⟨name table, some (.ofList (Text.trim (tail.drop 5)))⟩
      else none

end Query

namespace Store

def resultTable (t : FeatureTable) (v : View) : FeatureTable :=
  { FeatureTable.make t.name t.schema with
    fidColumn := t.fidColumn
    capabilities := FeatureTable.resultCapabilities
    records := t.records.filter v.admits }

def knownDialect (dialect : Option String) : Bool :=
  dialect.all fun d => d.isEmpty || Text.sameWord d "OGRSQL" || Text.sameWord d "SQLITE"

def query (s : Store) (c : Connection) (text : String) (spatial : Option Geometry)
    (dialect : Option String) : Except Error View × Connection × Store :=
  let refuse (reason : Refusal) (detail : String) : Except Error View × Connection × Store :=
    let (e, c) := c.refuse reason "GDALDatasetExecuteSQL" detail
    (e, c, s)
  if !knownDialect dialect then
    refuse .unsupportedOperation ("unsupported SQL dialect '" ++ dialect.getD "" ++ "'")
  else
    match Query.parse? text with
    | none => refuse .corruptData s!"unsupported statement '{text}'"
    | some q =>
      match s.layerByName c q.table with
      | .error _ => refuse .failure s!"table '{q.table}' not found"
      | .ok v =>
        match (v.setPredicate (s.table v.table) q.predicate) with
        | (.error e, _) => refuse .corruptData e.message
        | (.ok (), v) =>
          let (i, s) := s.addTable (resultTable (s.table v.table) v)
          let d := s.source c.source
          (.ok ((View.make i c.source false true).setSpatial (spatial.map .geometry)), c,
            s.setSource c.source { d with resultSets := d.resultSets + 1 })

def release (s : Store) (c : Connection) : Store :=
  let d := s.source c.source
  s.setSource c.source { d with resultSets := d.resultSets - 1 }

end Store

end FeatureLayer
