import FeatureLayer.Proofs.Layer.Ignoring
import FeatureLayer.Proofs.Layer.Tables
import FeatureLayer.Proofs.Row.RoundTrip
/-!
Reads of a layer that leaves fields out, beside reads of the same layer with nothing left out. As long
as the view spares the columns that are shown, the one gives what the other gives in these columns.
-/

namespace FeatureLayer

/-! ### Answers in some columns -/

def Row.only (names : List String) (r : Row) : Row :=
  ⟨r.entries.filter fun e => names.contains e.1⟩

def ReadPlan.only (names : List String) (p : ReadPlan) : ReadPlan :=
  ⟨p.columns.filter fun c => names.contains c.1⟩

def Table.only (names : List String) (t : Table) : Table :=
  let kept := (t.names.zip t.columns).filter fun e => names.contains e.1
  { t with names := kept.map (·.1), columns := kept.map (·.2) }

def Reply.only (names : List String) : Reply → Reply
  | .row r => .row (r.map (·.only names))
  | .table t => .table (t.only names)
  | reply => reply

namespace ReadPlan

variable {p : ReadPlan} {options : ReadOptions} {names : List String} {r r' : Record}

theorem decode_eq_cells (p : ReadPlan) (options : ReadOptions) (r : Record) :
    p.decode Faults.none.codec options r =
      .ok (p.columns.map fun c => cell Faults.none.codec options r c.2) := by
  obtain ⟨vs, hvs⟩ := Faults.decode_ok p options r
  rw [hvs, eq_cells_of_decode_eq_ok hvs]

theorem fits_only (names : List String) {room : Nat} (h : p.fits room = true) :
    (p.only names).fits room = true := by
  simp only [fits, emptyColumns, List.all_map, List.all_eq_true] at h ⊢
  exact fun c hc => h c (List.mem_of_mem_filter hc)

def SameIn (p : ReadPlan) (options : ReadOptions) (r r' : Record) : Prop :=
  ∀ c ∈ p.columns,
    cell Faults.none.codec options r' c.2 = cell Faults.none.codec options r c.2

theorem only_ofList (hp : p.names.Nodup) (value : String × ColumnSource → Value) :
    (Row.ofList (p.columns.map fun c => (c.1, value c))).only names =
      Row.ofList ((p.only names).columns.map fun c => (c.1, value c)) := by
  have hentries : ∀ q : ReadPlan, q.names.Nodup →
      Row.ofList (q.columns.map fun c => (c.1, value c)) = ⟨q.columns.map fun c => (c.1, value c)⟩ :=
    fun q hq => congrArg Row.mk (Row.entries_ofList (by rw [List.map_map]; exact hq))
  have honly : (p.only names).names.Nodup := hp.sublist (List.filter_sublist.map _)
  rw [hentries p hp, hentries _ honly, Row.only, List.filter_map]
  rfl

theorem decodeRow_only (hp : p.names.Nodup) (h : (p.only names).SameIn options r r') :
    (p.only names).decodeRow Faults.none.codec options r' =
      (p.decodeRow Faults.none.codec options r).map (·.only names) := by
  have hrow : ∀ (q : ReadPlan) (r : Record), q.decodeRow Faults.none.codec options r =
      .ok (.ofList (q.columns.map fun c => (c.1, cell Faults.none.codec options r c.2))) := by
    intro q r
    rw [decodeRow, decode_eq_cells]
    exact congrArg (fun es => Except.ok (Row.ofList es)) List.zip_map'
  rw [hrow, hrow, Except.map, only_ofList hp]
  refine congrArg (fun es => Except.ok (Row.ofList es)) (List.map_congr_left fun c hc => ?_)
  rw [h c hc]

end ReadPlan

namespace Table

variable {t t' : Table} {p : ReadPlan} {codec : GeometryCodec} {options : ReadOptions}
  {names : List String} {records : List Record}

theorem holds_start (p : ReadPlan) (codec : GeometryCodec) (options : ReadOptions) :
    (start p).Holds p codec options [] := ⟨rfl, rfl, rfl⟩

theorem Holds.push (h : t.Holds p codec options records) (r : Record) :
    (t.push (p.columns.map fun c => ReadPlan.cell codec options r c.2)).Holds p codec options
      (records ++ [r]) where
  names := h.names
  numRows := by
    rw [List.length_append, ← h.numRows]
    rfl
  columns := by
    rw [Table.push, h.columns, List.zipWith_map, List.zipWith_self]
    simp only [List.map_append, List.map_singleton, List.foldl_append, List.foldl_cons,
      List.foldl_nil]

theorem Holds.only (h : t.Holds p codec options records) (names : List String) :
    (t.only names).Holds (p.only names) codec options records := by
  have hzip : t.names.zip t.columns = p.columns.map fun c => (c.1,
      (records.map fun r => ReadPlan.cell codec options r c.2).foldl Column.push
        (ReadPlan.emptyColumn c.2)) := by
    rw [h.names, h.columns, ReadPlan.names]
    exact List.zip_map'
  refine ⟨?_, h.numRows, ?_⟩
  all_goals
    simp only [Table.only, hzip, List.filter_map, List.map_map]
    rfl

theorem Holds.row?_only (h : t.Holds p codec options records) (hp : p.names.Nodup)
    (names : List String) (i : Nat) : (t.only names).row? i = (t.row? i).map (·.only names) := by
  rw [(h.only names).row?, h.row?, Option.map_map]
  refine congrArg (Option.map · _) (funext fun r => ?_)
  exact (ReadPlan.only_ofList hp _).symm

/-- A table in some columns of records that hold there what other records do is the table of the
others in these columns. -/
theorem Holds.finish_only {g : Record → Record}
    (hg : ∀ r, (p.only names).SameIn options r (g r))
    (h : t.Holds (p.only names) Faults.none.codec options (records.map g))
    (h' : t'.Holds p Faults.none.codec options records) (room : Nat) (ws : List Warning) :
    t.finish room ws = (t'.finish room ws).only names := by
  have honly := h'.only names
  have hrows : t.numRows = (t'.only names).numRows := by
    rw [h.numRows, honly.numRows, List.length_map]
  have hcolumns : t.columns = (t'.only names).columns := by
    rw [h.columns, honly.columns]
    refine List.map_congr_left fun c hc => ?_
    rw [List.map_map]
    exact congrArg (List.foldl Column.push _) (List.map_congr_left fun r _ => hg r c hc)
  rw [h.finish, h'.finish, hcolumns, hrows, h.names.trans honly.names.symm]
  rfl

end Table

/-! ### Views with nothing left out -/

namespace View

variable (t : FeatureTable) (v : View)

theorem next_readingAll :
    ∃ (r : Option Record) (place : Option Int),
      v.next t = (r.map v.project, { v with position := place }) ∧
      v.readingAll.next t = (r, { v.readingAll with position := place }) := by
  have hadmits : v.readingAll.admits = v.admits := rfl
  have hposition : v.readingAll.position = v.position := rfl
  unfold next
  rw [hadmits, hposition]
  cases (t.records.after v.position).find? fun e => v.admits e.2 with
  | none => exact ⟨none, _, rfl, rfl⟩
  | some e => exact ⟨some e.2, _, rfl, rfl⟩

theorem setPredicate_readingAll (text : Option String) :
    v.readingAll.setPredicate t text =
      ((v.setPredicate t text).1, (v.setPredicate t text).2.readingAll) := by
  unfold setPredicate
  simp only
  split
  · rfl
  · split <;> rfl

theorem seek_readingAll (index : Int) :
    v.readingAll.seek t index = ((v.seek t index).1, (v.seek t index).2.readingAll) := by
  unfold seek
  split <;> rfl

theorem seek_ignored (index : Int) : (v.seek t index).2.ignored = v.ignored := by
  unfold seek
  split <;> rfl

end View

theorem Faults.setPredicate_readingAll (s : Store) (call : Nat) (v : View) (text : Option String) :
    Faults.none.setPredicate s call v.readingAll text =
      ((Faults.none.setPredicate s call v text).1,
        (Faults.none.setPredicate s call v text).2.readingAll) :=
  v.setPredicate_readingAll (s.table v.table) text

/-! ### Reads of the two layers -/

/-- Of what the layer would show with nothing left out it shows the columns of these names, and its view
leaves what they hold as it is. -/
structure OpenLayer.Spares (names : List String) (reading : ReadOptions) (o : OpenLayer) : Prop where
  plan : ReadPlan.make o.schema o.ignored reading = (ReadPlan.make o.schema .none reading).only names
  distinct : (ReadPlan.make o.schema .none reading).names.Nodup
  view : ∀ r, (ReadPlan.make o.schema o.ignored reading).SameIn reading r (o.view.project r)

theorem OpenLayer.Spares.congr {names : List String} {reading : ReadOptions} {o o' : OpenLayer}
    (h : o.Spares names reading) (hs : o'.schema = o.schema) (hi : o'.ignored = o.ignored)
    (hv : o'.view.ignored = o.view.ignored) : o'.Spares names reading where
  plan := by rw [hs, hi, h.plan]
  distinct := hs ▸ h.distinct
  view r := by
    have hproject : o'.view.project r = o.view.project r := by rw [View.project, hv, View.project]
    rw [hs, hi, hproject]
    exact h.view r

def LayerRequest.browses : LayerRequest → Bool
  | .reset | .next | .fetch _ | .seek _ | .lookup _ | .setPredicate _ | .setSpatial _
  | .setSpatialWkt _ | .setSpatialGeometry _ | .setSpatialRect _ => true
  | _ => false

namespace Layer

def answers (f : Faults) : Store → Layer → List LayerRequest → List (Except Error Reply)
  | _, _, [] => []
  | s, l, r :: rs =>
    let out := l.ask f s r
    out.value :: answers f out.store out.layer rs

/-- The second layer is the first with nothing left out, which the first spares in these columns. -/
structure Spares (names : List String) (l l' : Layer) (o : OpenLayer) : Prop where
  state : l.state = some o
  readingAll : l' = l.withState o.readingAll
  spares : o.Spares names l.reading

namespace Spares

variable {s : Store} {names : List String} {l l' : Layer} {o : OpenLayer}

theorem state' (h : Spares names l l' o) : l'.state = some o.readingAll := by
  rw [h.readingAll]
  rfl

theorem reading_eq (h : Spares names l l' o) : l'.reading = l.reading := by
  rw [h.readingAll]
  rfl

theorem interrupt_eq (h : Spares names l l' o) : l'.interrupt = l.interrupt := by
  rw [h.readingAll]
  rfl

theorem plan_eq (h : Spares names l l' o) : l.plan o = (l'.plan o.readingAll).only names := by
  rw [h.readingAll]
  exact h.spares.plan

theorem distinct (h : Spares names l l' o) : (l'.plan o.readingAll).names.Nodup := by
  rw [h.readingAll]
  exact h.spares.distinct

theorem same (h : Spares names l l' o) {view : View} (hv : view.ignored = o.view.ignored)
    (r : Record) : ((l'.plan o.readingAll).only names).SameIn l.reading r (view.project r) := by
  have hproject : view.project r = o.view.project r := by rw [View.project, hv, View.project]
  rw [← h.plan_eq, hproject]
  exact h.spares.view r

theorem turned (h : Spares names l l' o) (view : View) (filters : Filters) (scan : Scan)
    (hv : view.ignored = o.view.ignored) :
    Spares names (l.withState { o with view, filters, scan })
      (l'.withState { o.readingAll with view := view.readingAll, filters, scan })
      { o with view, filters, scan } where
  state := rfl
  readingAll := by
    rw [h.readingAll]
    rfl
  spares := h.spares.congr rfl rfl hv

theorem interrupted (h : Spares names l l' o) (interrupt : Option Interrupt) :
    Spares names { l with interrupt } { l' with interrupt } o where
  state := h.state
  readingAll := by
    rw [h.readingAll]
    rfl
  spares := h.spares

theorem reset (h : Spares names l l' o) :
    l'.reset.1 = l.reset.1 ∧ ∃ o₁, Spares names l.reset.2 l'.reset.2 o₁ := by
  unfold Layer.reset
  rw [h.state, h.state']
  exact ⟨rfl, _, h.turned o.view.rewind o.filters .idle rfl⟩

theorem next (h : Spares names l l' o) :
    (l.next .none s).1 = (l'.next .none s).1.map (Option.map (·.only names)) ∧
      ∃ o₁, Spares names (l.next .none s).2 (l'.next .none s).2 o₁ := by
  obtain ⟨r, place, hview, hview'⟩ := o.view.next_readingAll (s.table o.view.table)
  have hturned := h.turned { o.view with position := place } o.filters .scanning rfl
  unfold Layer.next
  simp only [h.state, h.state', Faults.none_next, OpenLayer.view_readingAll, View.table_readingAll,
    hview, hview']
  cases r with
  | none => exact ⟨rfl, _, hturned⟩
  | some r =>
    have hrow := ReadPlan.decodeRow_only h.distinct (h.same rfl r)
    refine ⟨?_, _, hturned⟩
    simp only [Option.map_some, h.plan_eq, h.reading_eq, hrow]
    generalize (l'.plan o.readingAll).decodeRow Faults.none.codec l.reading r = decoded
    cases decoded <;> rfl

structure FetchSpares (names : List String) (plan : ReadPlan) (reading : ReadOptions) (p p' : Fetch) :
    Prop where
  view : p'.view = p.view.readingAll
  interrupt : p'.interrupt = p.interrupt
  same : ∀ r, (plan.only names).SameIn reading r (p.view.project r)
  table : ∃ records,
    p.table.Holds (plan.only names) Faults.none.codec reading (records.map p.view.project) ∧
      p'.table.Holds plan Faults.none.codec reading records

theorem fetchRows_spares {plan : ReadPlan} {reading : ReadOptions} (limit : Nat) {p p' : Fetch}
    (h : FetchSpares names plan reading p p') :
    (fetchRows .none s plan reading limit p').1 =
        (fetchRows .none s (plan.only names) reading limit p).1 ∧
      FetchSpares names plan reading (fetchRows .none s (plan.only names) reading limit p).2
        (fetchRows .none s plan reading limit p').2 := by
  induction limit generalizing p p' with
  | zero => exact ⟨rfl, h⟩
  | succ limit ih =>
    obtain ⟨r, place, hview, hview'⟩ := p.view.next_readingAll (s.table p.view.table)
    obtain ⟨records, hholds, hholds'⟩ := h.table
    have hnext : Faults.none.next s p.view =
        (r.map p.view.project, { p.view with position := place }) := by
      rw [Faults.none_next]
      exact hview
    have hnext' : Faults.none.next s p'.view =
        (r, ({ p.view with position := place } : View).readingAll) := by
      rw [Faults.none_next, h.view]
      exact hview'
    unfold fetchRows
    rw [hnext, hnext']
    cases r with
    | none => exact ⟨rfl, rfl, h.interrupt, h.same, records, hholds, hholds'⟩
    | some r =>
      have hrows : p'.table.numRows = p.table.numRows := by
        rw [hholds.numRows, hholds'.numRows, List.length_map]
      simp only [Option.map_some, ReadPlan.decode_eq_cells, h.interrupt, Table.push, hrows]
      have hpushed := hholds.push (p.view.project r)
      rw [← List.map_singleton, ← List.map_append] at hpushed
      have hafter : FetchSpares names plan reading
          ⟨{ p.view with position := place }, _, (poll reading.pollInterval (p.table.numRows + 1)
            p.interrupt).2⟩
          ⟨({ p.view with position := place } : View).readingAll, _,
            (poll reading.pollInterval (p.table.numRows + 1) p.interrupt).2⟩ :=
        ⟨rfl, rfl, h.same, _, hpushed, hholds'.push r⟩
      simp only [hrows] at hafter
      by_cases hstop : (poll reading.pollInterval (p.table.numRows + 1) p.interrupt).1 = true
      · simp only [hstop, if_true]
        exact ⟨trivial, hafter⟩
      · simp only [hstop]
        exact ih hafter

theorem fetchFrom (h : Spares names l l' o) (view : View) (hv : view.ignored = o.view.ignored)
    (expected : Option Int) {room : Nat} (hroom : (l'.plan o.readingAll).fits room = true)
    (limit : Nat) :
    (l.fetchFrom .none s o view expected room limit).1 =
        (l'.fetchFrom .none s o.readingAll view.readingAll expected room limit).1.map
          (·.only names) ∧
      ∃ o₁, Spares names (l.fetchFrom .none s o view expected room limit).2.2
        (l'.fetchFrom .none s o.readingAll view.readingAll expected room limit).2.2 o₁ := by
  have hstart : FetchSpares names (l'.plan o.readingAll) l.reading
      ⟨view, .start ((l'.plan o.readingAll).only names), l.interrupt⟩
      ⟨view.readingAll, .start (l'.plan o.readingAll), l.interrupt⟩ :=
    ⟨rfl, rfl, h.same hv, [], Table.holds_start .., Table.holds_start ..⟩
  obtain ⟨herror, hfetched⟩ := fetchRows_spares (s := s) limit hstart
  obtain ⟨place, hplace⟩ := Layer.fetchRows_eq .none s ((l'.plan o.readingAll).only names) l.reading
    limit ⟨view, .start ((l'.plan o.readingAll).only names), l.interrupt⟩
  unfold Layer.fetchFrom
  simp only [h.plan_eq, h.reading_eq, h.interrupt_eq, hroom, ReadPlan.fits_only names hroom,
    Bool.not_true, Bool.false_eq_true, if_false]
  generalize fetchRows .none s ((l'.plan o.readingAll).only names) l.reading limit
    ⟨view, .start ((l'.plan o.readingAll).only names), l.interrupt⟩ = fetched at herror hfetched hplace ⊢
  generalize fetchRows .none s (l'.plan o.readingAll) l.reading limit
    ⟨view.readingAll, .start (l'.plan o.readingAll), l.interrupt⟩ = fetched' at herror hfetched ⊢
  obtain ⟨e, p⟩ := fetched
  obtain ⟨e', p'⟩ := fetched'
  simp only at herror hfetched hplace
  subst herror
  have hmoved := (h.turned p.view o.filters .scanning
    ((congrArg View.ignored hplace).trans hv)).interrupted p.interrupt
  rw [← hfetched.view] at hmoved
  simp only [hfetched.interrupt]
  cases e' with
  | error e => exact ⟨rfl, _, hmoved⟩
  | ok u =>
    obtain ⟨records, hholds, hholds'⟩ := hfetched.table
    refine ⟨?_, _, hmoved⟩
    have hrows : p.table.numRows = p'.table.numRows := by
      rw [hholds.numRows, hholds'.numRows, List.length_map]
    simp only [hrows, Except.map]
    exact congrArg Except.ok (Table.Holds.finish_only hfetched.same hholds hholds' room _)

theorem fetch (h : Spares names l l' o) {size : FetchSize}
    (hroom : ∀ n, (l'.fetch .none s size).1 ≠ .error (.allocation n)) :
    (l.fetch .none s size).1 = (l'.fetch .none s size).1.map (·.only names) ∧
      ∃ o₁, Spares names (l.fetch .none s size).2.2 (l'.fetch .none s size).2.2 o₁ := by
  have hfits : ∀ {view expected room limit},
      (∀ n, (l'.fetchFrom .none s o.readingAll view expected room limit).1 ≠ .error (.allocation n)) →
      (l'.plan o.readingAll).fits room = true := by
    intro view expected room limit hne
    by_contra hfits
    rw [Bool.not_eq_true] at hfits
    refine hne room ?_
    unfold Layer.fetchFrom
    simp only [hfits]
    rfl
  cases size with
  | rows n =>
    rw [fetch_rows .none s h.state'] at hroom ⊢
    rw [fetch_rows .none s h.state]
    exact h.fetchFrom o.view rfl _ (hfits hroom) _
  | all =>
    rw [fetch_all .none s h.state'] at hroom ⊢
    rw [fetch_all .none s h.state]
    exact h.fetchFrom o.view.rewind rfl _ (hfits hroom) _

theorem fetchOne (h : Spares names l l' o) :
    (l.fetch .none s (.rows 1)).1.map (·.row? 0) =
        ((l'.fetch .none s (.rows 1)).1.map (·.row? 0)).map (Option.map (·.only names)) ∧
      ∃ o₁, Spares names (l.fetch .none s (.rows 1)).2.2 (l'.fetch .none s (.rows 1)).2.2 o₁ := by
  rw [fetch_rows .none s h.state', fetch_rows .none s h.state]
  simp only [OpenLayer.view_readingAll, View.table_readingAll]
  generalize min 1 ((s.table o.view.table).records.entries.length + 1) = limit
  obtain ⟨hvalue, hafter⟩ := h.fetchFrom (s := s) o.view rfl none (ReadPlan.fits_one _) limit
  refine ⟨?_, hafter⟩
  rw [hvalue]
  cases hfetched : (l'.fetchFrom .none s o.readingAll o.view.readingAll none 1 limit).1 with
  | error e => rfl
  | ok t =>
    have hholds := (shows_of_fetchFrom_eq_ok hfetched).holds
    exact congrArg Except.ok (hholds.row?_only h.distinct names 0)

theorem seek (h : Spares names l l' o) (index : Int) :
    (l'.seek .none s index).1 = (l.seek .none s index).1 ∧
      ∃ o₁, Spares names (l.seek .none s index).2 (l'.seek .none s index).2 o₁ := by
  have hseek : Faults.none.seekTo s o.view.readingAll index =
      ((Faults.none.seekTo s o.view index).1, (Faults.none.seekTo s o.view index).2.readingAll) :=
    o.view.seek_readingAll (s.table o.view.table) index
  have hview : (Faults.none.seekTo s o.view index).2.ignored = o.view.ignored :=
    o.view.seek_ignored (s.table o.view.table) index
  unfold Layer.seek
  simp only [h.state, h.state', OpenLayer.view_readingAll, hseek]
  split
  · exact ⟨rfl, o, h⟩
  · generalize Faults.none.seekTo s o.view index = sought at hview ⊢
    obtain ⟨_ | _, view⟩ := sought
    · exact ⟨rfl, _, h.turned _ o.filters o.scan hview⟩
    · exact ⟨rfl, _, h.turned _ o.filters .scanning hview⟩

theorem setSpatial (h : Spares names l l' o) (filter : Option SpatialFilter) :
    (l'.setSpatial filter).1 = (l.setSpatial filter).1 ∧
      ∃ o₁, Spares names (l.setSpatial filter).2 (l'.setSpatial filter).2 o₁ := by
  unfold Layer.setSpatial
  rw [h.state, h.state']
  exact ⟨rfl, _, h.turned (o.view.setSpatial filter) { o.filters with spatial := filter } .idle
    rfl⟩

theorem ofSpatial (h : Spares names l l' o) (act : Layer → Except Error Unit × Layer)
    (hact : (∃ e, ∀ l, act l = (.error e, l)) ∨ ∃ filter, ∀ l, act l = l.setSpatial filter) :
    (act l').1 = (act l).1 ∧ ∃ o₁, Spares names (act l).2 (act l').2 o₁ := by
  rcases hact with ⟨e, he⟩ | ⟨filter, hset⟩
  · rw [he, he]
    exact ⟨rfl, o, h⟩
  · rw [hset, hset]
    exact h.setSpatial filter

theorem setPredicate (h : Spares names l l' o) (text : String) :
    (l'.setPredicate .none s text).1 = (l.setPredicate .none s text).1 ∧
      ∃ o₁, Spares names (l.setPredicate .none s text).2.2 (l'.setPredicate .none s text).2.2 o₁ := by
  unfold Layer.setPredicate
  simp only [h.state, h.state', OpenLayer.view_readingAll, OpenLayer.filters_readingAll,
    Faults.setPredicate_readingAll]
  generalize hset : Faults.none.setPredicate s 0 o.view _ = set
  have hview := congrArg (·.2.ignored) hset
  simp only [Faults.setPredicate_ignored] at hview
  obtain ⟨_ | _, view⟩ := set
  · -- what was refused leaves the predicate before it, which is set again
    simp only [Faults.setPredicate_readingAll]
    exact ⟨trivial, _, h.turned _ o.filters o.scan
      ((Faults.none.setPredicate_ignored s 1 view _).trans hview.symm)⟩
  · exact ⟨rfl, _, h.turned view _ .idle hview.symm⟩

theorem restoreFilters (h : Spares names l l' o) :
    ∃ o₁, Spares names (l.restoreFilters .none s).2 (l'.restoreFilters .none s).2 o₁ := by
  unfold Layer.restoreFilters
  simp only [h.state, h.state', OpenLayer.view_readingAll, OpenLayer.filters_readingAll,
    Faults.setPredicate_readingAll]
  have hview := Faults.none.setPredicate_ignored s 1 o.view o.filters.predicate?
  generalize Faults.none.setPredicate s 1 o.view o.filters.predicate? = set at hview ⊢
  obtain ⟨_ | _, view⟩ := set
  · exact ⟨_, h.turned view.rewind o.filters .idle hview⟩
  · exact ⟨_, h.turned (view.setSpatial o.filters.spatial).rewind o.filters .idle hview⟩

theorem lookup (h : Spares names l l' o) (fid : Int) :
    (l.lookup .none s fid).1 = (l'.lookup .none s fid).1.map (Option.map (·.only names)) ∧
      ∃ o₁, Spares names (l.lookup .none s fid).2.2 (l'.lookup .none s fid).2.2 o₁ := by
  have hspatial : o.view.readingAll.setSpatial none = (o.view.setSpatial none).readingAll := rfl
  unfold Layer.lookup
  simp only [h.state, h.state', OpenLayer.view_readingAll, View.table_readingAll, hspatial,
    Faults.setPredicate_readingAll]
  generalize fidPredicate (s.table o.view.table).fidColumn fid = text
  have hview := Faults.none.setPredicate_ignored s 0 (o.view.setSpatial none) (some text)
  generalize Faults.none.setPredicate s 0 (o.view.setSpatial none) (some text) = set at hview ⊢
  obtain ⟨_ | _, view⟩ := set
  · obtain ⟨o₁, hrestored⟩ := (h.turned _ o.filters o.scan hview).restoreFilters (s := s)
    exact ⟨rfl, o₁, hrestored⟩
  · obtain ⟨hrow, o₁, hfetched⟩ := (h.turned _ o.filters o.scan hview).fetchOne (s := s)
    obtain ⟨o₂, hrestored⟩ := hfetched.restoreFilters (s := s)
    exact ⟨hrow, o₂, hrestored⟩

/-- Requests to browse leave the store alone. They are answered as if nothing were left out, but for the
columns. -/
theorem ask (h : Spares names l l' o) {r : LayerRequest} (hr : r.browses = true)
    (hroom : ∀ n, (l'.ask .none s r).value ≠ .error (.allocation n)) :
    (l.ask .none s r).value = (l'.ask .none s r).value.map (·.only names) ∧
      (l.ask .none s r).store = s ∧ (l'.ask .none s r).store = s ∧
      ∃ o₁, Spares names (l.ask .none s r).layer (l'.ask .none s r).layer o₁ := by
  have hdone : ∀ {e e' : Except Error Unit}, e' = e →
      e.map (fun _ => Reply.done) = (e'.map fun _ => Reply.done).map (·.only names) := by
    intro e e' heq
    rw [heq]
    cases e <;> rfl
  cases r with
  | reset => exact ⟨hdone h.reset.1, rfl, rfl, h.reset.2⟩
  | seek index => exact ⟨hdone (h.seek index).1, rfl, rfl, (h.seek index).2⟩
  | setPredicate text =>
    have hask : ∀ l : Layer, l.ask .none s (.setPredicate text) =
        ⟨(l.setPredicate .none s text).1.map fun _ => .done, (l.setPredicate .none s text).2.1,
          (l.setPredicate .none s text).2.2, s⟩ := fun l => by
      rw [Layer.ask]
    rw [hask, hask]
    exact ⟨hdone (h.setPredicate text).1, rfl, rfl, (h.setPredicate text).2⟩
  | setSpatial g => exact ⟨hdone (h.setSpatial _).1, rfl, rfl, (h.setSpatial _).2⟩
  | setSpatialWkt text =>
    obtain ⟨hvalue, hafter⟩ := h.ofSpatial (·.setSpatialWkt .none text) <| by
      unfold Layer.setSpatialWkt
      cases Faults.none.codec.ofWkt text with
      | error e => exact .inl ⟨e, fun _ => rfl⟩
      | ok g => exact .inr ⟨_, fun _ => rfl⟩
    exact ⟨hdone hvalue, rfl, rfl, hafter⟩
  | setSpatialGeometry g =>
    obtain ⟨hvalue, hafter⟩ := h.ofSpatial (·.setSpatialGeometry .none g) <| by
      unfold Layer.setSpatialGeometry
      cases Faults.none.codec.ofWkb (g.toWkb .leastFirst) with
      | error e => exact .inl ⟨e, fun _ => rfl⟩
      | ok g => exact .inr ⟨_, fun _ => rfl⟩
    exact ⟨hdone hvalue, rfl, rfl, hafter⟩
  | setSpatialRect e =>
    obtain ⟨hvalue, hafter⟩ := h.ofSpatial (·.setSpatialRect e) <| by
      by_cases he : e.isValid = true
      · exact .inr ⟨_, fun _ => if_pos he⟩
      · exact .inl ⟨_, fun _ => if_neg he⟩
    exact ⟨hdone hvalue, rfl, rfl, hafter⟩
  | next =>
    obtain ⟨hvalue, hafter⟩ := h.next (s := s)
    refine ⟨(congrArg (Except.map Reply.row) hvalue).trans ?_, rfl, rfl, hafter⟩
    show _ = ((l'.next .none s).1.map Reply.row).map _
    cases (l'.next .none s).1 <;> rfl
  | lookup fid =>
    have hask : ∀ l : Layer, l.ask .none s (.lookup fid) =
        ⟨(l.lookup .none s fid).1.map .row, (l.lookup .none s fid).2.1, (l.lookup .none s fid).2.2,
          s⟩ := fun l => by
      rw [Layer.ask]
    obtain ⟨hvalue, hafter⟩ := h.lookup (s := s) fid
    rw [hask, hask]
    refine ⟨(congrArg (Except.map Reply.row) hvalue).trans ?_, rfl, rfl, hafter⟩
    cases (l'.lookup .none s fid).1 <;> rfl
  | fetch size =>
    have hroom : ∀ n, (l'.fetch .none s size).1 ≠ .error (.allocation n) := by
      intro n hn
      exact hroom n (congrArg (Except.map Reply.table) hn)
    obtain ⟨hvalue, hafter⟩ := h.fetch hroom
    refine ⟨(congrArg (Except.map Reply.table) hvalue).trans ?_, rfl, rfl, hafter⟩
    show _ = ((l'.fetch .none s size).1.map Reply.table).map _
    cases (l'.fetch .none s size).1 <;> rfl
  | _ => cases hr

theorem answers (h : Spares names l l' o) {rs : List LayerRequest}
    (hrs : ∀ r ∈ rs, r.browses = true)
    (hroom : ∀ n, .error (.allocation n) ∉ l'.answers .none s rs) :
    l.answers .none s rs = (l'.answers .none s rs).map (Except.map (·.only names)) := by
  induction rs generalizing l l' o with
  | nil => rfl
  | cons r rs ih =>
    obtain ⟨hr, hrs⟩ := List.forall_mem_cons.mp hrs
    simp only [Layer.answers, List.mem_cons, not_or] at hroom
    obtain ⟨hvalue, hstore, hstore', o₁, hafter⟩ := h.ask hr fun n hn => (hroom n).1 hn.symm
    rw [hstore'] at hroom
    simp only [Layer.answers, List.map_cons]
    rw [hstore, hstore', hvalue, ih hafter hrs fun n => (hroom n).2]

end Spares

end Layer

end FeatureLayer
