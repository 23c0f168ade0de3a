import FeatureLayer.Proofs.Constraints
import FeatureLayer.Store.Request
/-!
What can become of a store: work on its tables and sources, and turns of transactions. A source that
is worked on keeps its tables in their order and its snapshot.
-/

namespace FeatureLayer

namespace Store

variable {s s' : Store}

/-! ### Tables and sources after a change -/

theorem table_setTable (s : Store) (i : Nat) (t : FeatureTable) (j : Nat) :
    (s.setTable i t).table j = if i = j ∧ j < s.tables.length then t else s.table j := by
  simp only [table, setTable, List.getElem?_set]
  by_cases h : i = j
  · subst h
    by_cases hl : i < s.tables.length <;> simp [hl]
  · simp [h]

theorem table_of_mem {t : FeatureTable} (h : t ∈ s.tables) : ∃ i, s.table i = t := by
  obtain ⟨i, hi⟩ := List.mem_iff_getElem?.mp h
  exact ⟨i, by rw [table, hi]; rfl⟩

theorem source_setSource (s : Store) (i : Nat) (d : DataSource) (j : Nat) :
    (s.setSource i d).source j = if i = j ∧ j < s.sources.length then d else s.source j := by
  simp only [source, setSource, List.getElem?_set]
  by_cases h : i = j
  · subst h
    by_cases hl : i < s.sources.length <;> simp [hl]
  · simp [h]

theorem source_of_le {d : Nat} (h : s.sources.length ≤ d) : s.source d = .empty := by
  rw [source, List.getElem?_eq_none h]
  rfl

theorem lt_of_mem_tables {i d : Nat} (h : i ∈ (s.source d).tables) : d < s.sources.length := by
  by_contra hd
  rw [source_of_le (by omega)] at h
  cases h

theorem apply_source_setSource {α : Type} (g : DataSource → α) (s : Store) {i : Nat} {d : DataSource}
    (h : g d = g (s.source i)) (j : Nat) : g ((s.setSource i d).source j) = g (s.source j) := by
  rw [source_setSource]
  split
  next hi => exact hi.1 ▸ h
  next => rfl

theorem table_addTable (s : Store) (t : FeatureTable) (j : Nat) :
    (s.addTable t).2.table j = if j = s.tables.length then t else s.table j := by
  simp only [table, addTable, List.getElem?_append]
  split
  · rw [if_neg (by omega)]
  · by_cases h : j = s.tables.length
    · simp [h]
    · rw [if_neg h, List.getElem?_eq_none (by simp; omega), List.getElem?_eq_none (by omega)]

@[simp] theorem length_setTable (s : Store) (i : Nat) (t : FeatureTable) :
    (s.setTable i t).tables.length = s.tables.length := by simp [setTable]

@[simp] theorem length_addTable (s : Store) (t : FeatureTable) :
    (s.addTable t).2.tables.length = s.tables.length + 1 := by simp [addTable]

def withTable (s : Store) (d : Nat) (t : FeatureTable) : Store :=
  (s.addTable t).2.setSource d
    { s.source d with tables := (s.source d).tables ++ [s.tables.length] }

/-- What work on a store comes to. Results of queries are added by work that may query. -/
inductive Work (mayQuery : Prop) (s : Store) : Store → Prop
  | table (i : Nat) {t : FeatureTable} (h : (s.table i).Changes t) : Work mayQuery s (s.setTable i t)
  | list (d : Nat) (name : String) (schema : Schema) :
      Work mayQuery s (s.withTable d (.make name schema))
  | result (hq : mayQuery) (i : Nat) (v : View) :
      Work mayQuery s (s.addTable (resultTable (s.table i) v)).2
  | source (i : Nat) {d : DataSource} (ht : d.tables = (s.source i).tables)
      (hs : d.snapshot = (s.source i).snapshot) : Work mayQuery s (s.setSource i d)
  | create (name : String) :
      Work mayQuery s { s with
        sources := s.sources ++ [.empty], registry := s.registry ++ [(name, s.sources.length)] }
  | remove (name : String) : Work mayQuery s (s.remove name).2

abbrev Works (mayQuery : Prop) : Store → Store → Prop := Relation.ReflTransGen (Work mayQuery)

theorem Works.mono {p q : Prop} (h : s.Works p s') (hpq : p → q) : s.Works q s' := by
  refine Relation.ReflTransGen.mono (fun s₁ s₂ hw => ?_) s s' h
  cases hw with
  | table i ht => exact .table i ht
  | list d name schema => exact .list d name schema
  | result hp i v => exact .result (hpq hp) i v
  | source i ht hs => exact .source i ht hs
  | create name => exact .create name
  | remove name => exact .remove name

inductive Control where
  | begin (force : Bool)
  | commit
  | rollback
  deriving DecidableEq, Repr

def Control.ends : Control → Bool
  | .begin _ => false
  | .commit | .rollback => true

def Control.ending (commit : Bool) : Control := if commit then .commit else .rollback

def withSnapshot (s : Store) (d : Nat) (snapshot : Option Snapshot) : Store :=
  s.setSource d { s.source d with snapshot }

def cut (s : Store) (d n : Nat) : Store :=
  s.setSource d { s.source d with tables := (s.source d).tables.take n, snapshot := none }

def rolledBack (s : Store) (d : Nat) (before : Snapshot) : Store :=
  (s.cut d before.contents.length).restore
    (((s.source d).tables.take before.contents.length).zip before.contents)

/-- What a request about transactions does to the store when it is granted. -/
inductive Turn (s : Store) (d : Nat) : Control → Store → Prop
  | begin {force : Bool} (h : (s.source d).snapshot = none)
      (ht : (s.source d).transactions ≠ .unsupported) :
      Turn s d (.begin force) (s.withSnapshot d (some (s.contentsOf (s.source d))))
  | commit {before : Snapshot} (h : (s.source d).snapshot = some before) :
      Turn s d .commit (s.withSnapshot d none)
  | rollback {before : Snapshot} (h : (s.source d).snapshot = some before) :
      Turn s d .rollback (s.rolledBack d before)

/-- How a connection is answered about a transaction. A refusal leaves the store as it is, and one to
end a transaction is given only where none is active. -/
inductive Answered (s : Store) (c : Connection) (k : Control) :
    Except Error Unit × Connection × Store → Prop
  | refused {e : Error} {c' : Connection} (hc : c'.source = c.source)
      (h : k.ends = true → (s.source c.source).snapshot = none) : Answered s c k (.error e, c', s)
  | granted {s' : Store} (h : s.Turn c.source k s') : Answered s c k (.ok (), c, s')

end Store

/-! ### Views -/

namespace View

def handle (v : View) : Nat × Nat × Bool × Bool := (v.table, v.source, v.writable, v.isResultSet)

theorem next_eq (t : FeatureTable) (v : View) : ∃ p, (v.next t).2 = { v with position := p } := by
  unfold next
  split
  · exact ⟨_, rfl⟩
  · exact ⟨_, rfl⟩

theorem seek_eq (t : FeatureTable) (v : View) (index : Int) :
    ∃ p e, (v.seek t index).2 = { v with position := p, lastError := e } := by
  unfold seek
  split
  · exact ⟨v.position, _, rfl⟩
  · exact ⟨_, v.lastError, rfl⟩

theorem ignore_eq (t : FeatureTable) (v : View) (names : List String) :
    ∃ i e, (v.ignore t names).2 = { v with ignored := i, lastError := e } := by
  unfold ignore
  split
  · exact ⟨v.ignored, _, rfl⟩
  · exact ⟨_, v.lastError, rfl⟩

theorem extent_eq (t : FeatureTable) (v : View) (force : Bool) :
    ∃ e, (v.extent t force).2 = { v with lastError := e } := by
  unfold extent
  split
  · exact ⟨_, rfl⟩
  · split
    · exact ⟨v.lastError, rfl⟩
    · exact ⟨_, rfl⟩

theorem setPredicate_eq (t : FeatureTable) (v : View) (text : Option String) :
    ∃ p e, (v.setPredicate t text).2 =
      { v with position := none, predicate := p, lastError := e } := by
  unfold setPredicate
  simp only
  split
  · exact ⟨none, v.lastError, rfl⟩
  · split
    · exact ⟨_, v.lastError, rfl⟩
    · exact ⟨v.predicate, _, rfl⟩

theorem write_eq (t : FeatureTable) (v : View) (capability : LayerCapability) (method : String)
    (act : FeatureTable → Except FeatureTable.Rejection (Int × FeatureTable)) :
    (∃ e, (v.write t capability method act).2.1 = { v with lastError := e }) ∧
      ((v.write t capability method act).2.2 = t ∨
        ∃ fid, act t = .ok (fid, (v.write t capability method act).2.2)) := by
  unfold write
  simp only
  split
  · exact ⟨⟨_, rfl⟩, .inl rfl⟩
  · split
    · exact ⟨⟨_, rfl⟩, .inl rfl⟩
    · split
      · rename_i fid t' h
        exact ⟨⟨v.lastError, rfl⟩, .inr ⟨fid, h⟩⟩
      · exact ⟨⟨_, rfl⟩, .inl rfl⟩

theorem write_refused {v : View} (hv : v.writable = false) (t : FeatureTable)
    (capability : LayerCapability) (method : String)
    (act : FeatureTable → Except FeatureTable.Rejection (Int × FeatureTable)) :
    ∃ e v', v.write t capability method act = (.error e, v', t) := by
  unfold write
  simp only [hv]
  exact ⟨_, _, rfl⟩

structure Writes (act : FeatureTable → View → Except Error Int × View × FeatureTable) : Prop where
  view : ∀ (t : FeatureTable) (v : View), ∃ e, (act t v).2.1 = { v with lastError := e }
  changes : ∀ (t : FeatureTable) (v : View), t.Changes (act t v).2.2
  holds : ∀ (t : FeatureTable) (v : View), ∃ m n, (act t v).2.2 = t.holding m n
  refused : ∀ (t : FeatureTable) (v : View), v.writable = false → (act t v).2.2 = t

theorem writes_of_change {capability : LayerCapability} {method : String}
    {act : FeatureTable → Except FeatureTable.Rejection (Int × FeatureTable)}
    (h : ∀ t t' fid, act t = .ok (fid, t') → t.Change t' ∧ ∃ m n, t' = t.holding m n) :
    Writes fun t v => v.write t capability method act where
  view t v := (write_eq t v capability method act).1
  changes t v := by
    rcases (write_eq t v capability method act).2 with heq | ⟨fid, heq⟩
    · rw [heq]
    · exact .single (h _ _ _ heq).1
  holds t v := by
    rcases (write_eq t v capability method act).2 with heq | ⟨fid, heq⟩
    · exact ⟨t.records, t.nextFid, heq⟩
    · exact (h _ _ _ heq).2
  refused t v hv := by
    obtain ⟨e, v', heq⟩ := write_refused hv t capability method act
    rw [heq]

theorem writes_create (r : Record) : Writes fun t v => v.create t r :=
  writes_of_change fun _ _ _ h => ⟨.insert h, FeatureTable.holding_of_insert h⟩

theorem writes_replace (r : Record) : Writes fun t v => v.replace t r :=
  writes_of_change fun _ _ _ h => ⟨.replace h, FeatureTable.holding_of_replace h⟩

theorem writes_upsert (r : Record) : Writes fun t v => v.upsert t r :=
  writes_of_change fun _ _ _ h =>
    ⟨FeatureTable.change_upsert h, FeatureTable.holding_of_upsert h⟩

theorem writes_delete (fid : Int) : Writes fun t v => v.delete t fid :=
  writes_of_change fun _ _ _ h => ⟨.delete h, FeatureTable.holding_of_delete h⟩

end View

/-! ### Requests -/

namespace Store

variable (s : Store) {q : Prop}

theorem works_change {v : View} {f : FeatureTable → FeatureTable}
    (h : (s.table v.table).Change (f (s.table v.table))) : s.Works q (s.change v f) :=
  .single (.table v.table (.single h))

theorem works_write {act : FeatureTable → View → Except Error Int × View × FeatureTable}
    (h : View.Writes act) (v : View) : s.Works q (s.write v act).2.2 :=
  .single (.table v.table (h.changes _ v))

theorem create_ok {s : Store} {name : String} {c : Connection} {s' : Store}
    (h : s.create name = .ok (c, s')) : s.Work q s' := by
  unfold create at h
  split at h
  · cases h
  · cases h
    exact .create name

theorem layerByName_ok {s : Store} {c : Connection} {name : String} {v : View}
    (h : s.layerByName c name = .ok v) :
    v.table ∈ (s.source c.source).tables ∧
      v = View.make v.table c.source (c.access = .readWrite) false := by
  unfold layerByName at h
  split at h
  next i hi =>
    cases h
    refine ⟨?_, rfl⟩
    rw [tableOfName?, Option.orElse_eq_orElse, Option.orElse_eq_or] at hi
    rcases Option.or_eq_some_iff.mp hi with hi | ⟨-, hi⟩
    · exact List.mem_of_find?_eq_some hi
    · exact List.mem_of_find?_eq_some hi
  next => cases h

theorem createLayer_ok {s : Store} {c : Connection} {name : String} {schema : Schema} {v : View}
    {s' : Store} (h : s.createLayer c name schema = .ok (v, s')) :
    v = View.make s.tables.length c.source true false ∧
      s' = s.withTable c.source (.make name schema) := by
  unfold createLayer at h
  simp only at h
  split at h
  · cases h
  · split at h
    · cases h
    · cases h
      exact ⟨rfl, rfl⟩

theorem works_release (c : Connection) : s.Works q (s.release c) :=
  .single (.source c.source rfl rfl)

theorem query_cases (c : Connection) (text : String) (spatial : Option Geometry)
    (dialect : Option String) :
    ((∃ e c', s.query c text spatial dialect = (.error e, c', s) ∧ c'.source = c.source)) ∨
      ∃ i ∈ (s.source c.source).tables, ∃ v, s.query c text spatial dialect =
        (.ok ((View.make s.tables.length c.source false true).setSpatial (spatial.map .geometry)), c,
          (s.addTable (resultTable (s.table i) v)).2.setSource c.source
            { s.source c.source with resultSets := (s.source c.source).resultSets + 1 }) := by
  unfold query
  simp only
  split
  · exact .inl ⟨_, _, rfl, rfl⟩
  · split
    · exact .inl ⟨_, _, rfl, rfl⟩
    next q _ =>
      split
      · exact .inl ⟨_, _, rfl, rfl⟩
      next v hv =>
        obtain ⟨hlisted, -⟩ := layerByName_ok hv
        obtain ⟨p, e, htable⟩ := View.setPredicate_eq (s.table v.table) v q.predicate
        split
        · exact .inl ⟨_, _, rfl, rfl⟩
        next v' heq =>
          obtain rfl : v' = _ := (congrArg (·.2) heq).symm.trans htable
          exact .inr ⟨_, hlisted, _, rfl⟩

theorem works_query (hq : q) (c : Connection) (text : String) (spatial : Option Geometry)
    (dialect : Option String) : s.Works q (s.query c text spatial dialect).2.2 := by
  rcases s.query_cases c text spatial dialect with ⟨e, c', h, -⟩ | ⟨i, -, v, h⟩
  · rw [h]
  · rw [h]
    exact .tail (.single (.result hq i v)) (.source c.source rfl rfl)

theorem works_askView (v : View) (r : ViewRequest) : s.Works q (s.askView v r).2.2 := by
  cases r with
  | setCapabilities capabilities =>
    exact s.works_change (v := v) (f := ({ · with capabilities })) (.relabel rfl rfl rfl)
  | setReportedCount reportedCount =>
    exact s.works_change (v := v) (f := ({ · with reportedCount })) (.relabel rfl rfl rfl)
  | setFidColumn fidColumn =>
    exact s.works_change (v := v) (f := ({ · with fidColumn })) (.relabel rfl rfl rfl)
  | create r => exact s.works_write (View.writes_create r) v
  | replace r => exact s.works_write (View.writes_replace r) v
  | upsert r => exact s.works_write (View.writes_upsert r) v
  | delete fid => exact s.works_write (View.writes_delete fid) v
  | extent | setPredicate | setSpatial | ignore | rewind | next | seek => exact .refl

theorem askView_handle (v : View) (r : ViewRequest) : (s.askView v r).2.1.handle = v.handle := by
  have hwrite : ∀ {act : FeatureTable → View → Except Error Int × View × FeatureTable},
      View.Writes act → (act (s.table v.table) v).2.1.handle = v.handle := by
    intro act hact
    obtain ⟨e, he⟩ := hact.view (s.table v.table) v
    rw [he]
    rfl
  cases r with
  | setCapabilities | setReportedCount | setFidColumn | setSpatial | rewind => rfl
  | extent force =>
    obtain ⟨e, he⟩ := View.extent_eq (s.table v.table) v force
    exact (congrArg View.handle he :)
  | setPredicate text =>
    obtain ⟨p, e, he⟩ := View.setPredicate_eq (s.table v.table) v text
    exact (congrArg View.handle he :)
  | ignore names =>
    obtain ⟨i, e, he⟩ := View.ignore_eq (s.table v.table) v names
    exact (congrArg View.handle he :)
  | next =>
    obtain ⟨p, he⟩ := View.next_eq (s.table v.table) v
    exact (congrArg View.handle he :)
  | seek index =>
    obtain ⟨p, e, he⟩ := View.seek_eq (s.table v.table) v index
    exact (congrArg View.handle he :)
  | create r => exact hwrite (View.writes_create r)
  | replace r => exact hwrite (View.writes_replace r)
  | upsert r => exact hwrite (View.writes_upsert r)
  | delete fid => exact hwrite (View.writes_delete fid)

/-! ### Transactions -/

variable {s} in
theorem Answered.source_eq {c : Connection} {k : Control} {q : Except Error Unit × Connection × Store}
    (h : s.Answered c k q) : q.2.1.source = c.source := by
  cases h with
  | refused hc => exact hc
  | granted => rfl

theorem begin_answered (c : Connection) (force : Bool) :
    s.Answered c (.begin force) (s.begin c force) := by
  unfold begin
  simp only
  split
  · exact .refused rfl nofun
  · rename_i hs
    split
    · exact .refused rfl nofun
    · rename_i hn
      refine .granted (.begin ?_ fun h => hs (.inl h))
      simpa using hn

theorem commit_answered (c : Connection) : s.Answered c .commit (s.commit c) := by
  unfold commit
  simp only
  split
  · rename_i h
    exact .granted (.commit h)
  · rename_i h
    exact .refused rfl fun _ => h

theorem rollback_answered (c : Connection) : s.Answered c .rollback (s.rollback c) := by
  unfold rollback
  simp only
  split
  · rename_i h
    exact .granted (.rollback h)
  · rename_i h
    exact .refused rfl fun _ => h

end Store

/-! ### Overlays -/

namespace Overlay

theorem writeAll_spec (t : FeatureTable) (v : View) (rs : List Record) :
    (∃ e, (writeAll t v rs).2.1 = { v with lastError := e }) ∧
      t.Changes (writeAll t v rs).2.2 := by
  induction rs generalizing t v with
  | nil => exact ⟨⟨v.lastError, rfl⟩, .refl⟩
  | cons r rs ih =>
    obtain ⟨e, he⟩ := (View.writes_create r).view t v
    have hc := (View.writes_create r).changes t v
    simp only [writeAll]
    rcases hw : v.create t r with ⟨a, v', t'⟩
    simp only [hw] at he hc
    subst he
    cases a with
    | ok fid =>
      obtain ⟨⟨e', he'⟩, hr⟩ := ih t' { v with lastError := e }
      exact ⟨⟨e', he'⟩, hc.trans hr⟩
    | error => exact ⟨⟨e, rfl⟩, hc⟩

def prepared (kind : OverlayKind) (o : Options) (s : Store) (input method result : View) : Store :=
  s.change result (prepare kind o (s.table input.table).schema.fields (s.table method.table).schema.fields)

/-- The records that an overlay makes for a table of that schema, in the order of writing. -/
def recordsFor (A : RegionAlgebra) (kind : OverlayKind) (o : Options)
    (inputFields methodFields : List Field) (s : Schema) (inputs methods : List Part) : List Record :=
  ((pieces A kind inputs methods).filter (!·.polygons.isEmpty)).map
    (record o.promoteToMulti s (targets o.inputPrefix inputFields s.fields)
      (methodTargets kind o methodFields s.fields))

def writeResult (A : RegionAlgebra) (kind : OverlayKind) (o : Options) (s : Store)
    (input method result : View) (inputs methods : List Part) : Except Error Unit × View × FeatureTable :=
  let t := (prepared kind o s input method result).table result.table
  writeAll t result (recordsFor A kind o (s.table input.table).schema.fields
    (s.table method.table).schema.fields t.schema inputs methods)

def remembering (v : View) : Except Error Unit → View
  | .ok () => v
  | .error e => { v with lastError := e.detail }

theorem exists_remembering (v : View) (value : Except Error Unit) :
    ∃ e, remembering v value = { v with lastError := e } := by
  cases value with
  | ok => exact ⟨v.lastError, rfl⟩
  | error e => exact ⟨e.detail, rfl⟩

variable {A : RegionAlgebra} {kind : OverlayKind} {o : Options} {answer : Nat → Bool} {s : Store}
  {input method result : View} {inputs methods : List Part}

theorem table_prepared (hlt : result.table < s.tables.length) :
    (prepared kind o s input method result).table result.table =
      prepare kind o (s.table input.table).schema.fields (s.table method.table).schema.fields
        (s.table result.table) := by
  rw [prepared, Store.change, Store.table_setTable, if_pos ⟨rfl, hlt⟩]

theorem setTable_prepared (t : FeatureTable) :
    (prepared kind o s input method result).setTable result.table t = s.setTable result.table t := by
  simp [prepared, Store.change, Store.setTable]

theorem writeResult_eq (hlt : result.table < s.tables.length) :
    writeResult A kind o s input method result inputs methods =
      let inputFields := (s.table input.table).schema.fields
      let methodFields := (s.table method.table).schema.fields
      let t := prepare kind o inputFields methodFields (s.table result.table)
      writeAll t result (recordsFor A kind o inputFields methodFields t.schema inputs methods) := by
  simp only [writeResult, table_prepared hlt]

theorem run_of_read_only (h : result.writable = false) :
    run A kind s input method result o answer =
      let e := .refused .unsupportedOperation kind.method "result layer is opened read-only"
      ⟨.error e, [], { input with lastError := e.detail }, result, s⟩ := by
  simp only [run, h, Bool.not_false, if_true]

section

variable (hwritable : result.writable = true)

include hwritable

theorem run_of_unfit {e : Error}
    (h : collect kind o.skipFailures (input.selected (s.table input.table)) = .error e ∨
      (∃ inputs, collect kind o.skipFailures (input.selected (s.table input.table)) = .ok inputs) ∧
        collect kind o.skipFailures (method.selected (s.table method.table)) = .error e) :
    run A kind s input method result o answer =
      ⟨.error e, [], { input with lastError := e.detail }, result, s⟩ := by
  simp only [run, hwritable, Bool.not_true, Bool.false_eq_true, if_false]
  rcases h with h | ⟨⟨inputs, hinputs⟩, h⟩
  · rw [h]
  · rw [hinputs, h]

variable (hinputs : collect kind o.skipFailures (input.selected (s.table input.table)) = .ok inputs)
  (hmethods : collect kind o.skipFailures (method.selected (s.table method.table)) = .ok methods)

include hinputs hmethods

theorem run_of_no {told : List Double}
    (h : let total := inputs.length + if kind.keepsMethod then methods.length else 0
      tell answer total 0 (milestones total) = (false, told)) :
    run A kind s input method result o answer =
      let e := .refused .failure kind.method "User terminated"
      ⟨.error e, told, { input with lastError := e.detail }, result,
        prepared kind o s input method result⟩ := by
  simp only [run, hwritable, Bool.not_true, Bool.false_eq_true, if_false, hinputs, hmethods, h,
    Bool.not_false, if_true]
  rfl

theorem run_of_yes {told : List Double}
    (h : let total := inputs.length + if kind.keepsMethod then methods.length else 0
      tell answer total 0 (milestones total) = (true, told)) :
    run A kind s input method result o answer =
      let written := writeResult A kind o s input method result inputs methods
      ⟨written.1, told, remembering input written.1, written.2.1,
        (prepared kind o s input method result).setTable result.table written.2.2⟩ := by
  have hs₁ : s.change result (prepare kind o (s.table input.table).schema.fields
    (s.table method.table).schema.fields) = prepared kind o s input method result := rfl
  simp only [run, hwritable, Bool.not_true, Bool.false_eq_true, if_false, hinputs, hmethods, h, hs₁,
    writeResult]
  generalize prepared kind o s input method result = s₁
  generalize hrecords : List.map _ _ = records
  obtain rfl : recordsFor A kind o _ _ (s₁.table result.table).schema inputs methods = records := hrecords
  generalize recordsFor A kind o _ _ (s₁.table result.table).schema inputs methods = records
  obtain ⟨⟨e, he⟩, -⟩ := writeAll_spec (s₁.table result.table) result records
  generalize writeAll (s₁.table result.table) result records = written at he ⊢
  obtain ⟨value, v, t⟩ := written
  obtain rfl : v = { result with lastError := e } := he
  cases value <;> rfl

end

/-- An overlay stops at once, is told no, or writes. -/
theorem run_forms (A : RegionAlgebra) (kind : OverlayKind) (s : Store) (input method result : View)
    (o : Options) (answer : Nat → Bool) :
    let out := run A kind s input method result o answer
    (∃ e, out = ⟨.error e, [], { input with lastError := e.detail }, result, s⟩ ∧
      ∀ inputs methods, ¬(result.writable = true ∧
        collect kind o.skipFailures (input.selected (s.table input.table)) = .ok inputs ∧
        collect kind o.skipFailures (method.selected (s.table method.table)) = .ok methods)) ∨
      result.writable = true ∧ ∃ inputs methods,
        collect kind o.skipFailures (input.selected (s.table input.table)) = .ok inputs ∧
        collect kind o.skipFailures (method.selected (s.table method.table)) = .ok methods ∧
        ((∃ e told, out = ⟨.error e, told, { input with lastError := e.detail }, result,
            prepared kind o s input method result⟩) ∨
          ∃ told, out =
            let written := writeResult A kind o s input method result inputs methods
            ⟨written.1, told, remembering input written.1, written.2.1,
              (prepared kind o s input method result).setTable result.table written.2.2⟩) := by
  intro out
  cases hwritable : result.writable with
  | false => exact .inl ⟨_, run_of_read_only hwritable, fun _ _ h => Bool.false_ne_true h.1⟩
  | true =>
    cases hinputs : collect kind o.skipFailures (input.selected (s.table input.table)) with
    | error e =>
      exact .inl ⟨e, run_of_unfit hwritable (.inl hinputs), fun _ _ h => by cases h.2.1⟩
    | ok inputs =>
      cases hmethods : collect kind o.skipFailures (method.selected (s.table method.table)) with
      | error e =>
        exact .inl ⟨e, run_of_unfit hwritable (.inr ⟨⟨inputs, hinputs⟩, hmethods⟩),
          fun _ _ h => by cases h.2.2⟩
      | ok methods =>
        refine .inr ⟨rfl, inputs, methods, rfl, rfl, ?_⟩
        generalize htotal : inputs.length + (if kind.keepsMethod then methods.length else 0) = total
        cases htold : tell answer total 0 (milestones total) with
        | mk go told =>
          subst htotal
          cases go with
          | false => exact .inl ⟨_, told, run_of_no hwritable hinputs hmethods htold⟩
          | true => exact .inr ⟨told, run_of_yes hwritable hinputs hmethods htold⟩

/-- An overlay moves neither view, and works on the store through the result alone. -/
theorem run_spec {q : Prop} (A : RegionAlgebra) (kind : OverlayKind) (s : Store)
    (input method result : View) (o : Options) (answer : Nat → Bool) :
    let out := run A kind s input method result o answer
    (∃ e, out.input = { input with lastError := e }) ∧
      (∃ e, out.result = { result with lastError := e }) ∧ s.Works q out.store := by
  have hprepared : s.Works q (prepared kind o s input method result) :=
    s.works_change (.define _ _ _ _)
  rcases run_forms A kind s input method result o answer with
    ⟨e, hout, -⟩ | ⟨-, inputs, methods, -, -, ⟨e, told, hout⟩ | ⟨told, hout⟩⟩
  · rw [hout]
    exact ⟨⟨_, rfl⟩, ⟨result.lastError, rfl⟩, .refl⟩
  · rw [hout]
    exact ⟨⟨_, rfl⟩, ⟨result.lastError, rfl⟩, hprepared⟩
  · obtain ⟨hview, hchanges⟩ := writeAll_spec ((prepared kind o s input method result).table result.table)
      result (recordsFor A kind o (s.table input.table).schema.fields (s.table method.table).schema.fields
        ((prepared kind o s input method result).table result.table).schema inputs methods)
    rw [hout]
    exact ⟨exists_remembering input _, hview, hprepared.tail (.table result.table hchanges)⟩

end Overlay

end FeatureLayer
