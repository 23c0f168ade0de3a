import FeatureLayer.Proofs.Layer.Step
import FeatureLayer.Proofs.Store.Reading
import FeatureLayer.Proofs.Table

namespace FeatureLayer

namespace Faults

theorem toValue_ok (options : ReadOptions) (g : Option Geometry) :
    ∃ x, none.codec.toValue options g = .ok x := by
  cases g with
  | none => exact ⟨.null, rfl⟩
  | some g =>
    unfold GeometryCodec.toValue
    simp only
    split <;> exact ⟨_, rfl⟩

theorem decode_ok (plan : ReadPlan) (options : ReadOptions) (r : Record) :
    ∃ values, plan.decode none.codec options r = .ok values := by
  refine mapM_ok_of_forall fun c _ => ?_
  unfold ReadPlan.valueAt
  split
  · exact ⟨_, rfl⟩
  · exact ⟨_, rfl⟩
  · exact toValue_ok options _

theorem none_next (s : Store) (v : View) : none.next s v = v.next (s.table v.table) := by
  unfold Faults.next
  generalize v.next (s.table v.table) = p
  obtain ⟨r, v'⟩ := p
  cases r <;> rfl

end Faults

theorem Faults.none_countOf (s : Store) (v : View) :
    Faults.none.countOf s v true =
      (s.table v.table).reportedCount.getD (v.selected (s.table v.table)).length := by
  show v.count (s.table v.table) true = _
  unfold View.count
  cases (s.table v.table).reportedCount <;> rfl

theorem Faults.none_countOf_uncounted {s : Store} {v : View}
    (h : (s.table v.table).reportedCount = .none) :
    Faults.none.countOf s v true = (v.selected (s.table v.table)).length := by
  rw [none_countOf, h]
  rfl

/-- The table holds these records, one a row. -/
structure Table.Shows (t : Table) (plan : ReadPlan) (options : ReadOptions) (records : List Record) :
    Prop where
  numRows : t.numRows = records.length
  names : t.names = plan.names
  columns : ∃ rows, records.mapM (plan.decode Faults.none.codec options) = .ok rows ∧
    t.columns = rows.foldl (List.zipWith Column.push) plan.emptyColumns

theorem Table.Shows.holds {t : Table} {plan : ReadPlan} {options : ReadOptions}
    {records : List Record} (h : t.Shows plan options records) :
    t.Holds plan Faults.none.codec options records := by
  obtain ⟨rows, hrows, hcolumns⟩ := h.columns
  have hholds := Table.holds_of_mapM_eq_ok hrows
  rw [Table.foldl_push] at hholds
  exact ⟨h.names, h.numRows, hcolumns.trans hholds.columns⟩

theorem Table.Shows.row? {t : Table} {plan : ReadPlan} {options : ReadOptions}
    {records : List Record} (h : t.Shows plan options records) (i : Nat) :
    t.row? i = records[i]?.map (plan.tableRow Faults.none.codec options) :=
  h.holds.row? i

theorem Table.Shows.eq_of_same {t t' : Table} {plan : ReadPlan} {options : ReadOptions}
    {records : List Record} (h : t.Shows plan options records) (h' : t'.Shows plan options records) :
    { t with warnings := [] } = { t' with warnings := [] } := by
  obtain ⟨rows, hrows, hcolumns⟩ := h.columns
  obtain ⟨rows', hrows', hcolumns'⟩ := h'.columns
  cases hrows.symm.trans hrows'
  simp only [h.names, h'.names, h.numRows, h'.numRows, hcolumns, hcolumns']

theorem ReadPlan.fits_one (p : ReadPlan) : p.fits 1 = true := by
  rw [fits, List.all_eq_true]
  intro c _
  have hsize : c.cellSize ≤ 40 := by cases c <;> simp [Column.cellSize]
  have hroom : 40 ≤ addressable := by decide
  simp only [decide_eq_true_eq]
  omega

namespace Layer

variable {s : Store} {l : Layer} {o : OpenLayer}

/-- What comes of fetching rows: the records ahead as far as the limit goes, if no one stops it. -/
structure Fetched (s : Store) (plan : ReadPlan) (reading : ReadOptions) (limit : Nat) (p q : Fetch) :
    Prop where
  view : ∃ place, q.view = { p.view with position := place }
  pending : q.view.pending (s.table p.view.table) =
    (p.view.pending (s.table p.view.table)).drop limit
  table : ∃ rows,
    (((p.view.pending (s.table p.view.table)).take limit).map p.view.project).mapM
      (plan.decode Faults.none.codec reading) = .ok rows ∧ q.table = rows.foldl Table.push p.table

theorem fetchRows_spec (s : Store) (plan : ReadPlan) (reading : ReadOptions) (limit : Nat)
    (p : Fetch) :
    let out := fetchRows .none s plan reading limit p
    (out.1 = .ok () → Fetched s plan reading limit p out.2) ∧
      (p.interrupt = none → out.1 = .ok () ∧ out.2.interrupt = none) := by
  induction limit generalizing p with
  | zero => exact ⟨fun _ => ⟨⟨_, rfl⟩, rfl, [], rfl, rfl⟩, fun hi => ⟨rfl, hi⟩⟩
  | succ limit ih =>
    unfold fetchRows
    rw [Faults.none_next]
    cases hpend : p.view.pending (s.table p.view.table) with
    | nil =>
      obtain ⟨place, hnext, hnil⟩ := View.next_of_pending_eq_nil hpend
      rw [hnext]
      refine ⟨fun _ => ⟨⟨place, rfl⟩, ?_, [], ?_, rfl⟩, fun hi => ⟨rfl, hi⟩⟩
      · rw [hpend]
        exact hnil
      · rw [hpend]
        rfl
    | cons r rs =>
      obtain ⟨place, hnext, hrest⟩ := View.next_of_pending_eq_cons hpend
      obtain ⟨row, hrow⟩ := Faults.decode_ok plan reading (p.view.project r)
      rw [hnext]
      simp only [hrow]
      obtain ⟨ih₁, ih₂⟩ := ih ⟨{ p.view with position := place }, p.table.push row,
        (poll reading.pollInterval (p.table.push row).numRows p.interrupt).2⟩
      split
      next hstop =>
        refine ⟨fun hok => ?_, fun hi => ?_⟩
        · cases hok
        · rw [hi] at hstop
          cases hstop
      next hgo =>
        refine ⟨fun hok => ?_, fun hi => ih₂ ?_⟩
        · obtain ⟨⟨place', hview⟩, hpending, rows, hrows, htable⟩ := ih₁ hok
          refine ⟨⟨place', hview⟩, ?_, row :: rows, ?_, htable⟩
          · rw [hpending, hpend, List.drop_succ_cons]
            exact congrArg (List.drop limit) hrest
          · have hrows : ((rs.take limit).map p.view.project).mapM
                (plan.decode Faults.none.codec reading) = .ok rows := hrest ▸ hrows
            rw [hpend, List.take_succ_cons, List.map_cons, List.mapM_cons, hrow, hrows]
            rfl
        · rw [hi]
          rfl

theorem Fetched.shows {plan : ReadPlan} {reading : ReadOptions} {limit : Nat} {view : View}
    {interrupt : Option Interrupt} {q : Fetch}
    (h : Fetched s plan reading limit ⟨view, .start plan, interrupt⟩ q) (room : Nat)
    (ws : List Warning) :
    (q.table.finish room ws).Shows plan reading
      (((view.pending (s.table view.table)).take limit).map view.project) := by
  obtain ⟨rows, hrows, htable⟩ := h.table
  rw [htable, (Table.holds_of_mapM_eq_ok hrows).finish, Table.foldl_push]
  refine ⟨?_, rfl, rows, hrows, rfl⟩
  have hlen := length_of_mapM_eq_ok hrows
  simp only [Table.start, Nat.zero_add]
  exact hlen

theorem shows_of_fetchFrom_eq_ok {view : View} {expected : Option Int} {room limit : Nat}
    {table : Table} (h : (l.fetchFrom .none s o view expected room limit).1 = .ok table) :
    table.Shows (l.plan o) l.reading
      (((view.pending (s.table view.table)).take limit).map view.project) := by
  unfold fetchFrom at h
  simp only at h
  split at h
  · cases h
  · obtain ⟨hspec, -⟩ := fetchRows_spec s (l.plan o) l.reading limit
      ⟨view, .start (l.plan o), l.interrupt⟩
    generalize fetchRows .none s (l.plan o) l.reading limit
      ⟨view, .start (l.plan o), l.interrupt⟩ = fetched at h hspec
    obtain ⟨e, q⟩ := fetched
    cases e with
    | error e => cases h
    | ok u =>
      cases h
      exact (hspec rfl).shows _ _

/-- With room for it and no one to stop it a fetch gives a table. -/
theorem fetchFrom_ok {room : Nat} (hroom : (l.plan o).fits room = true) (hi : l.interrupt = none)
    (s : Store) (view : View) (expected : Option Int) (limit : Nat) :
    ∃ table place, (l.fetchFrom .none s o view expected room limit).1 = .ok table ∧
      (l.fetchFrom .none s o view expected room limit).2.2 =
        l.withState { o with view := { view with position := place }, scan := .scanning } ∧
      ({ view with position := place } : View).pending (s.table view.table) =
        (view.pending (s.table view.table)).drop limit := by
  obtain ⟨hspec, hquiet⟩ := fetchRows_spec s (l.plan o) l.reading limit
    ⟨view, .start (l.plan o), l.interrupt⟩
  unfold fetchFrom
  simp only
  rw [hroom]
  generalize fetchRows .none s (l.plan o) l.reading limit
    ⟨view, .start (l.plan o), l.interrupt⟩ = fetched at hspec hquiet ⊢
  obtain ⟨e, q⟩ := fetched
  obtain ⟨hok, hqi⟩ := hquiet hi
  simp only at hok hqi
  subst hok
  obtain ⟨⟨place, hview⟩, hpending, -⟩ := hspec rfl
  simp only at hview hpending
  refine ⟨_, place, rfl, ?_, ?_⟩
  · simp only [Bool.not_true, Bool.false_eq_true, if_false]
    rw [hview, hqi, ← hi]
    rfl
  · rw [← hview]
    exact hpending

/-- Only who is asked whether to stop can keep records from being fetched. -/
theorem interrupted_of_fetchRows_eq_error {plan : ReadPlan} {reading : ReadOptions} {limit : Nat}
    {p : Fetch} {e : Error} (h : (fetchRows .none s plan reading limit p).1 = .error e) :
    ∃ n, e = .interrupted n := by
  induction limit generalizing p with
  | zero => cases h
  | succ limit ih =>
    unfold fetchRows at h
    split at h
    · cases h
    next r view _ =>
      obtain ⟨row, hrow⟩ := Faults.decode_ok plan reading r
      simp only [hrow] at h
      split at h
      · cases h
        exact ⟨_, rfl⟩
      · exact ih h

theorem interrupted_of_fetchFrom_eq_error {view : View} {expected : Option Int} {room limit : Nat}
    {e : Error} (hroom : (l.plan o).fits room = true)
    (h : (l.fetchFrom .none s o view expected room limit).1 = .error e) :
    ∃ n, e = .interrupted n := by
  unfold fetchFrom at h
  simp only [hroom, Bool.not_true, Bool.false_eq_true, if_false] at h
  split at h
  next heq =>
    cases h
    exact interrupted_of_fetchRows_eq_error heq
  · cases h

theorem shows_of_fetch_all (ho : l.state = some o) {table : Table}
    (h : (l.fetch .none s .all).1 = .ok table) :
    table.Shows (l.plan o) l.reading
      ((o.view.selected (s.table o.view.table)).map o.view.project) := by
  rw [fetch_all .none s ho] at h
  have hlen := View.pending_le_entries (s.table o.view.table) o.view.rewind
  have hshows := shows_of_fetchFrom_eq_ok h
  have hall : (o.view.rewind.pending (s.table o.view.table)).take
      ((s.table o.view.table).records.entries.length + 1) =
      o.view.selected (s.table o.view.table) := by
    rw [List.take_of_length_le (by omega), View.pending_eq_selected rfl]
    rfl
  rw [← hall]
  exact hshows

theorem warnings_of_fetchFrom_eq_ok {f : Faults} {view : View} {expected : Int} {room limit : Nat}
    {table : Table} (h : (l.fetchFrom f s o view (some expected) room limit).1 = .ok table) :
    table.warnings = if 0 ≤ expected ∧ expected < table.numRows then
      [.countMismatch expected table.numRows] else [] := by
  unfold fetchFrom at h
  simp only at h
  split at h
  · cases h
  · split at h
    · cases h
    · cases h
      rfl

theorem names_fetchRows (f : Faults) (s : Store) (plan : ReadPlan) (reading : ReadOptions)
    (limit : Nat) (p : Fetch) :
    (fetchRows f s plan reading limit p).2.table.names = p.table.names := by
  induction limit generalizing p with
  | zero => rfl
  | succ limit ih =>
    unfold fetchRows
    split
    · rfl
    · split
      · rfl
      · simp only
        split
        · rfl
        · exact ih _

theorem names_of_fetchFrom_eq_ok {f : Faults} {view : View} {expected : Option Int}
    {room limit : Nat} {table : Table}
    (h : (l.fetchFrom f s o view expected room limit).1 = .ok table) :
    table.names = (l.plan o).names := by
  have hnames := names_fetchRows f s (l.plan o) l.reading limit
    ⟨view, .start (l.plan o), l.interrupt⟩
  unfold fetchFrom at h
  simp only at h
  split at h
  · cases h
  · split at h
    · cases h
    · cases h
      exact hnames

theorem names_of_fetch_eq_ok {f : Faults} {size : FetchSize} {table : Table}
    (ho : l.state = some o) (h : (l.fetch f s size).1 = .ok table) :
    table.names = (l.plan o).names := by
  cases size with
  | rows n =>
    rw [fetch_rows f s ho] at h
    exact names_of_fetchFrom_eq_ok h
  | all =>
    rw [fetch_all f s ho] at h
    exact names_of_fetchFrom_eq_ok h

theorem fetch_all_ok (ho : l.state = some o) (hi : l.interrupt = none)
    (hroom : (l.plan o).fits (Faults.none.countOf s o.view true).toNat = true) :
    ∃ table, (l.fetch .none s .all).1 = .ok table := by
  rw [fetch_all .none s ho]
  obtain ⟨table, -, htable, -⟩ := fetchFrom_ok (l := l) (o := o) hroom hi s o.view.rewind
    (some (Faults.none.countOf s o.view.rewind true))
    ((s.table o.view.table).records.entries.length + 1)
  exact ⟨table, htable⟩

theorem fetch_all_of_not_fits (ho : l.state = some o)
    (hroom : (l.plan o).fits (Faults.none.countOf s o.view true).toNat = false) :
    (l.fetch .none s .all).1 = .error (.allocation (Faults.none.countOf s o.view true).toNat) := by
  have hcount : Faults.none.countOf s o.view.rewind true = Faults.none.countOf s o.view true := rfl
  rw [fetch_all .none s ho, fetchFrom, hcount]
  simp only [hroom]
  rfl

theorem fetch_all_ok_of_room (ho : l.state = some o) (hi : l.interrupt = none)
    (h : ∀ room, (l.fetch .none s .all).1 ≠ .error (.allocation room)) :
    ∃ table, (l.fetch .none s .all).1 = .ok table := by
  cases hroom : (l.plan o).fits (Faults.none.countOf s o.view true).toNat with
  | false => exact absurd (fetch_all_of_not_fits ho hroom) (h _)
  | true => exact fetch_all_ok ho hi hroom

theorem warnings_of_fetch_all (ho : l.state = some o)
    (hcount : (s.table o.view.table).reportedCount = none) {table : Table}
    (h : (l.fetch .none s .all).1 = .ok table) : table.warnings = [] := by
  have hrows : (table.numRows : Int) = Faults.none.countOf s o.view.rewind true := by
    rw [(shows_of_fetch_all ho h).numRows, List.length_map]
    exact (Faults.none_countOf_uncounted (v := o.view) hcount).symm
  rw [fetch_all .none s ho] at h
  rw [warnings_of_fetchFrom_eq_ok h, hrows, if_neg fun h => Int.lt_irrefl _ h.2]

end Layer

end FeatureLayer
