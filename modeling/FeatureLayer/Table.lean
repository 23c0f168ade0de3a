import FeatureLayer.Table.Plan

namespace FeatureLayer

structure Table where
  names : List String
  columns : List Column
  numRows : Nat
  warnings : List Warning
  deriving DecidableEq

namespace Table

def start (p : ReadPlan) : Table := ⟨p.names, p.emptyColumns, 0, []⟩

def push (t : Table) (values : List Value) : Table :=
  { t with columns := List.zipWith Column.push t.columns values, numRows := t.numRows + 1 }

/-- The table at the end of a read. Room for rows that never came is given back, with all that stands
in it. -/
def finish (t : Table) (room : Nat) (warnings : List Warning) : Table :=
  { t with
    columns := if t.numRows < room then t.columns.map (·.take t.numRows) else t.columns
    warnings }

def column? (t : Table) (name : String) : Option Column := do
  let i ← t.names.findIdx? (· = name)
  t.columns[i]?

def row? (t : Table) (i : Nat) : Option Row :=
  if i < t.numRows then
    ((t.names.zip t.columns).mapM fun (e : String × Column) =>
      (e.2.get? i).map fun v => (e.1, v)).map Row.ofList
  else none

def rows (t : Table) : List Row := (List.range t.numRows).filterMap t.row?

def fids (t : Table) : List (Option Int) := t.rows.map (·.fid?)

end Table

end FeatureLayer
