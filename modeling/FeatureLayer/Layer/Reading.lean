import FeatureLayer.Layer.Filter
import FeatureLayer.Table

namespace FeatureLayer

inductive FetchSize where
  /-- At most so many from the present place. -/
  | rows (n : Nat)
  /-- All, from the start. -/
  | all
  deriving DecidableEq, Repr

namespace Layer

variable (f : Faults) (s : Store)

def reset (l : Layer) : Except Error Unit × Layer :=
  match l.state with
  | none => (.error .layerClosed, l)
  | some o => (.ok (), l.withState { o with view := o.view.rewind, scan := .idle })

def plan (l : Layer) (o : OpenLayer) : ReadPlan := .make o.schema o.ignored l.reading

def next (l : Layer) : Except Error (Option Row) × Layer :=
  match l.state with
  | none => (.error .layerClosed, l)
  | some o =>
    let (r, view) := f.next s o.view
    let l' := l.withState { o with view, scan := .scanning }
    match r with
    | none => (.ok none, l')
    | some r => (((l.plan o).decodeRow f.codec l.reading r).map some, l')

/-- Asks whether to stop after so many rows; nobody is asked between the intervals. -/
def poll (interval rows : Nat) (interrupt : Option Interrupt) : Bool × Option Interrupt :=
  match interrupt with
  | none => (false, none)
  | some i =>
    if 0 < interval ∧ rows % interval = 0 then
      (i.answer (i.polls + 1), some { i with polls := i.polls + 1 })
    else (false, some i)

structure Fetch where
  view : View
  table : Table
  interrupt : Option Interrupt

def fetchRows (plan : ReadPlan) (reading : ReadOptions) :
    (limit : Nat) → Fetch → Except Error Unit × Fetch
  | 0, p => (.ok (), p)
  | limit + 1, p =>
    match f.next s p.view with
    | (none, view) => (.ok (), { p with view })
    | (some r, view) =>
      match plan.decode f.codec reading r with
      | .error e => (.error e, { p with view })
      | .ok values =>
        let table := p.table.push values
        let (stop, interrupt) := poll reading.pollInterval table.numRows p.interrupt
        if stop then (.error (.interrupted table.numRows), ⟨view, table, interrupt⟩)
        else fetchRows plan reading limit ⟨view, table, interrupt⟩

/-- The records that are decoded on the way. -/
def fetchedRecords (plan : ReadPlan) (reading : ReadOptions) : (limit : Nat) → Fetch → List Record
  | 0, _ => []
  | limit + 1, p =>
    match f.next s p.view with
    | (none, _) => []
    | (some r, view) =>
      match plan.decode f.codec reading r with
      | .error _ => [r]
      | .ok values =>
        let table := p.table.push values
        let (stop, interrupt) := poll reading.pollInterval table.numRows p.interrupt
        if stop then [r] else r :: fetchedRecords plan reading limit ⟨view, table, interrupt⟩

/-- Fetches records into a table. Fetching all goes by the count of the store for room alone: records
beyond it are read too, under a warning. -/
def fetch (l : Layer) (size : FetchSize) : Except Error Table × List Warning × Layer :=
  match l.state with
  | none => (.error .layerClosed, [], l)
  | some o =>
    let plan := l.plan o
    let t := s.table o.view.table
    let (view, expected) := match size with
      | .rows _ => (o.view, none)
      | .all => (o.view.rewind, some (f.countOf s o.view.rewind true))
    let room := match size with
      | .rows n => n
      | .all => (expected.getD 0).toNat
    if !plan.fits room then
      (.error (.allocation room), [], l.withState { o with view })
    else
      let most := t.records.entries.length + 1
      let limit := match size with
        | .rows n => min n most
        | .all => most
      let (e, p) := fetchRows f s plan l.reading limit ⟨view, .start plan, l.interrupt⟩
      let l := { l.withState { o with view := p.view, scan := .scanning } with interrupt := p.interrupt }
      match e with
      | .error e => (.error e, [], l)
      | .ok () =>
        let ws := match expected with
          | none => []
          | some n =>
            if 0 ≤ n ∧ n < p.table.numRows then [.countMismatch n p.table.numRows] else []
        (.ok (p.table.finish room ws), l.report ws, l)

/-- The records that a fetch decodes. -/
def decodedByFetch (l : Layer) (size : FetchSize) : List Record :=
  match l.state with
  | none => []
  | some o =>
    let plan := l.plan o
    let view := match size with
      | .rows _ => o.view
      | .all => o.view.rewind
    let room := match size with
      | .rows n => n
      | .all => (f.countOf s view true).toNat
    let most := (s.table o.view.table).records.entries.length + 1
    let limit := match size with
      | .rows n => min n most
      | .all => most
    if plan.fits room then fetchedRecords f s plan l.reading limit ⟨view, .start plan, l.interrupt⟩
    else []

/-- Makes the record at `index` among those that pass the filters the next one. -/
def seek (l : Layer) (index : Int) : Except Error Unit × Layer :=
  let range (detail : String) : Error := .range "OGR_L_SetNextByIndex" detail
  if index < 0 then (.error (range s!"index must be non-negative, got {index}"), l)
  else
    match l.state with
    | none => (.error .layerClosed, l)
    | some o =>
      match f.seekTo s o.view index with
      | (.error e, view) => (.error (range e.detail), l.withState { o with view })
      | (.ok (), view) => (.ok (), l.withState { o with view, scan := .scanning })

def isPlainName (name : String) : Bool :=
  match name.toList with
  | [] => false
  | c :: cs => (c.isAlpha || c = '_') && cs.all fun c => c.isAlphanum || c = '_'

def writtenName (name : String) : String :=
  if isPlainName name then name
  else "\"" ++ .ofList (name.toList.flatMap fun c => if c = '"' then ['"', '"'] else [c]) ++ "\""

def fidPredicate (fidColumn : String) (fid : Int) : String :=
  (if fidColumn.isEmpty then Row.fidName else writtenName fidColumn) ++ s!" = {fid}"

/-- Installs the kept filters again, and rewinds. When the predicate is rejected, the spatial filter
is left as it is. -/
def restoreFilters (l : Layer) : List Warning × Layer :=
  match l.state with
  | none => ([], l)
  | some o =>
    let (restored, view) := f.setPredicate s 1 o.view o.filters.predicate?
    match restored with
    | .ok () =>
      ([], l.withState { o with view := (view.setSpatial o.filters.spatial).rewind, scan := .idle })
    | .error e =>
      (l.report [.filtersNotRestored e], l.withState { o with view := view.rewind, scan := .idle })

/-- The record of an identifier. It is read under a predicate for it alone, and the filters of the
layer are installed again whatever comes of it. -/
def lookup (l : Layer) (fid : Int) : Except Error (Option Row) × List Warning × Layer :=
  match l.state with
  | none => (.error .layerClosed, [], l)
  | some o =>
    let text := fidPredicate (s.table o.view.table).fidColumn fid
    let (set, view) := f.setPredicate s 0 (o.view.setSpatial none) (some text)
    let l := l.withState { o with view }
    let (t, ws, l) : Except Error Table × List Warning × Layer := match set with
      | .error e => (.error (.filterSyntax text e.detail), [], l)
      | .ok () => l.fetch f s (.rows 1)
    let (ws', l) := l.restoreFilters f s
    (t.map (·.row? 0), ws ++ ws', l)

def decodedByLookup (l : Layer) (fid : Int) : List Record :=
  match l.state with
  | none => []
  | some o =>
    let text := fidPredicate (s.table o.view.table).fidColumn fid
    match f.setPredicate s 0 (o.view.setSpatial none) (some text) with
    | (.error _, _) => []
    | (.ok (), view) => (l.withState { o with view }).decodedByFetch f s (.rows 1)

end Layer

end FeatureLayer
