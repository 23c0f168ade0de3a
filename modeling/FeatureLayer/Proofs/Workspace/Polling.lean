import Mathlib.Data.List.TakeWhile
import FeatureLayer.Proofs.Layer.Reading
import FeatureLayer.Proofs.Workspace.Step

namespace FeatureLayer

/-! ### Questions -/

namespace Interrupt

def asked (i : Interrupt) (n : Nat) : Interrupt := { i with polls := i.polls + n }

def StopsAt (i : Interrupt) (interval rows : Nat) : Prop :=
  0 < interval ∧ interval ∣ rows ∧ i.answer (i.polls + rows / interval) = true

instance (i : Interrupt) (interval rows : Nat) : Decidable (i.StopsAt interval rows) :=
  inferInstanceAs (Decidable (_ ∧ _ ∧ _))

theorem stopsAt_mul_iff {i : Interrupt} {interval : Nat} (h : 0 < interval) (j : Nat) :
    i.StopsAt interval (interval * j) ↔ i.answer (i.polls + j) = true := by
  rw [StopsAt, Nat.mul_div_cancel_left j h]
  exact ⟨fun hstop => hstop.2.2, fun ha => ⟨h, Nat.dvd_mul_right interval j, ha⟩⟩

end Interrupt

namespace Layer

theorem poll_asked (i : Interrupt) (interval rows : Nat) :
    poll interval (rows + 1) (some (i.asked (rows / interval))) =
      (decide (i.StopsAt interval (rows + 1)), some (i.asked ((rows + 1) / interval))) := by
  have hdiv : (rows + 1) / interval = rows / interval + if interval ∣ rows + 1 then 1 else 0 :=
    Nat.succ_div
  unfold poll
  simp only [← Nat.dvd_iff_mod_eq_zero]
  split
  next h =>
    rw [if_pos h.2] at hdiv
    simp [Interrupt.StopsAt, Interrupt.asked, h, hdiv, Nat.add_assoc]
  next h =>
    have hno : ¬ i.StopsAt interval (rows + 1) := fun hstop => h ⟨hstop.1, hstop.2.1⟩
    have hsame : (rows + 1) / interval = rows / interval := by
      rcases Nat.eq_zero_or_pos interval with rfl | hpos
      · rw [Nat.div_zero, Nat.div_zero]
      · rw [hdiv, if_neg fun hdvd => h ⟨hpos, hdvd⟩]
        rfl
    rw [decide_eq_false hno, hsame]

/-! ### The rows of a fetch -/

section

variable {f : Faults} {s : Store} {plan : ReadPlan} {reading : ReadOptions} {view : View}

def readable (f : Faults) (plan : ReadPlan) (reading : ReadOptions) (view : View) (r : Record) : Bool :=
  (plan.decode f.codec reading (f.spoil (view.project r))).isOk

/-- How many of so many records ahead are read into rows, up to one that cannot be. -/
def rowsAhead (f : Faults) (s : Store) (plan : ReadPlan) (reading : ReadOptions) (limit : Nat)
    (view : View) : Nat :=
  (((view.pending (s.table view.table)).take limit).takeWhile (readable f plan reading view)).length

theorem rowsAhead_of_pending_eq_nil (hpend : view.pending (s.table view.table) = []) (limit : Nat) :
    rowsAhead f s plan reading limit view = 0 := by
  rw [rowsAhead, hpend, List.take_nil]
  rfl

theorem rowsAhead_of_unreadable {r : Record} {rs : List Record}
    (hpend : view.pending (s.table view.table) = r :: rs) (hr : readable f plan reading view r = false)
    (limit : Nat) : rowsAhead f s plan reading (limit + 1) view = 0 := by
  rw [rowsAhead, hpend, List.take_succ_cons, List.takeWhile_cons_of_neg (by rw [hr]; decide)]
  rfl

theorem rowsAhead_succ {r : Record} {place : Option Int}
    (hpend : view.pending (s.table view.table) =
      r :: ({ view with position := place } : View).pending (s.table view.table))
    (hr : readable f plan reading view r = true) (limit : Nat) :
    rowsAhead f s plan reading (limit + 1) view =
      rowsAhead f s plan reading limit { view with position := place } + 1 := by
  rw [rowsAhead, hpend, List.take_succ_cons, List.takeWhile_cons_of_pos hr, List.length_cons]
  rfl

/-- What comes next in a fetch, whoever is asked: the end, a record that cannot be read, or a row. -/
inductive FetchStep (f : Faults) (s : Store) (plan : ReadPlan) (reading : ReadOptions) (limit : Nat)
    (view : View) (table : Table) : Prop
  | ended (place : Option Int) (hpend : view.pending (s.table view.table) = [])
      (hfetch : ∀ x, fetchRows f s plan reading (limit + 1) ⟨view, table, x⟩ =
        (.ok (), ⟨{ view with position := place }, table, x⟩))
  | failed (place : Option Int) (r : Record) (rs : List Record) (e : Error)
      (hpend : view.pending (s.table view.table) = r :: rs)
      (hr : readable f plan reading view r = false)
      (hfetch : ∀ x, fetchRows f s plan reading (limit + 1) ⟨view, table, x⟩ =
        (.error e, ⟨{ view with position := place }, table, x⟩))
  | row (place : Option Int) (r : Record) (values : List Value)
      (hpend : view.pending (s.table view.table) =
        r :: ({ view with position := place } : View).pending (s.table view.table))
      (hr : readable f plan reading view r = true)
      (hfetch : ∀ x, fetchRows f s plan reading (limit + 1) ⟨view, table, x⟩ =
        let (stop, x') := poll reading.pollInterval (table.numRows + 1) x
        if stop then (.error (.interrupted (table.numRows + 1)),
          ⟨{ view with position := place }, table.push values, x'⟩)
        else fetchRows f s plan reading limit ⟨{ view with position := place }, table.push values, x'⟩)

theorem fetchStep (f : Faults) (s : Store) (plan : ReadPlan) (reading : ReadOptions) (limit : Nat)
    (view : View) (table : Table) : FetchStep f s plan reading limit view table := by
  cases hpend : view.pending (s.table view.table) with
  | nil =>
    obtain ⟨place, hnext, -⟩ := View.next_of_pending_eq_nil hpend
    have hnext' : f.next s view = (none, { view with position := place }) := by
      rw [Faults.next, hnext]
      rfl
    exact .ended place hpend fun x => by rw [fetchRows, hnext']
  | cons r rs =>
    obtain ⟨place, hnext, rfl⟩ := View.next_of_pending_eq_cons hpend
    have hnext' : f.next s view =
        (some (f.spoil (view.project r)), { view with position := place }) := by
      rw [Faults.next, hnext]
      rfl
    cases hrow : plan.decode f.codec reading (f.spoil (view.project r)) with
    | error e =>
      refine .failed place r _ e hpend (by rw [readable, hrow]; rfl) fun x => ?_
      rw [fetchRows, hnext']
      simp only [hrow]
    | ok values =>
      refine .row place r values hpend (by rw [readable, hrow]; rfl) fun x => ?_
      rw [fetchRows, hnext']
      simp only [hrow]
      rfl

theorem numRows_fetchRows (f : Faults) (s : Store) (plan : ReadPlan) (reading : ReadOptions)
    (limit : Nat) (view : View) (table : Table) :
    (fetchRows f s plan reading limit ⟨view, table, none⟩).2.table.numRows =
      table.numRows + rowsAhead f s plan reading limit view := by
  induction limit generalizing view table with
  | zero => rfl
  | succ limit ih =>
    cases fetchStep f s plan reading limit view table with
    | ended place hpend hfetch =>
      rw [hfetch, rowsAhead_of_pending_eq_nil hpend]
      rfl
    | failed place r rs e hpend hr hfetch =>
      rw [hfetch, rowsAhead_of_unreadable hpend hr]
      rfl
    | row place r values hpend hr hfetch =>
      have hnum : (table.push values).numRows = table.numRows + 1 := rfl
      rw [hfetch, rowsAhead_succ hpend hr]
      exact (ih { view with position := place } (table.push values)).trans (by omega)

/-- While the answers are to go on, a fetch goes as one that no one may stop. -/
theorem fetchRows_of_unstopped (f : Faults) (s : Store) (plan : ReadPlan) (reading : ReadOptions)
    (i : Interrupt) (limit : Nat) (view : View) (table : Table)
    (h : ∀ m, table.numRows < m → m ≤ table.numRows + rowsAhead f s plan reading limit view →
      ¬ i.StopsAt reading.pollInterval m) :
    fetchRows f s plan reading limit
        ⟨view, table, some (i.asked (table.numRows / reading.pollInterval))⟩ =
      let quiet := fetchRows f s plan reading limit ⟨view, table, none⟩
      (quiet.1, { quiet.2 with
        interrupt := some (i.asked (quiet.2.table.numRows / reading.pollInterval)) }) := by
  induction limit generalizing view table with
  | zero => rfl
  | succ limit ih =>
    cases fetchStep f s plan reading limit view table with
    | ended place hpend hfetch => rw [hfetch, hfetch]
    | failed place r rs e hpend hr hfetch => rw [hfetch, hfetch]
    | row place r values hpend hr hfetch =>
      -- the questions asked are those after the rows in the table, with the new row as before it
      rw [rowsAhead_succ hpend hr] at h
      have hgo : ¬ i.StopsAt reading.pollInterval (table.numRows + 1) :=
        h _ (Nat.lt_succ_self _) (by omega)
      rw [hfetch, hfetch, poll_asked, decide_eq_false hgo]
      have hnum : (table.push values).numRows = table.numRows + 1 := rfl
      exact ih { view with position := place } (table.push values)
        fun m hm hle => h m (by omega) (by omega)

/-- At the first answer to stop a fetch ends, with the records before it consumed. -/
theorem fetchRows_of_stopped (f : Faults) (s : Store) (plan : ReadPlan) (reading : ReadOptions)
    (i : Interrupt) (limit : Nat) (view : View) (table : Table) {m : Nat} (hlt : table.numRows < m)
    (hle : m ≤ table.numRows + rowsAhead f s plan reading limit view)
    (hstop : i.StopsAt reading.pollInterval m)
    (hfirst : ∀ k, table.numRows < k → k < m → ¬ i.StopsAt reading.pollInterval k) :
    ∃ place table', fetchRows f s plan reading limit
          ⟨view, table, some (i.asked (table.numRows / reading.pollInterval))⟩ =
        (.error (.interrupted m), ⟨{ view with position := place }, table',
          some (i.asked (m / reading.pollInterval))⟩) ∧
      ({ view with position := place } : View).pending (s.table view.table) =
        (view.pending (s.table view.table)).drop (m - table.numRows) := by
  induction limit generalizing view table with
  | zero => exact absurd hlt (Nat.not_lt_of_le hle)
  | succ limit ih =>
    cases fetchStep f s plan reading limit view table with
    | ended place hpend hfetch =>
      rw [rowsAhead_of_pending_eq_nil hpend] at hle
      exact absurd hlt (Nat.not_lt_of_le hle)
    | failed place r rs e hpend hr hfetch =>
      rw [rowsAhead_of_unreadable hpend hr] at hle
      exact absurd hlt (Nat.not_lt_of_le hle)
    | row place r values hpend hr hfetch =>
      rw [rowsAhead_succ hpend hr] at hle
      rw [hfetch, poll_asked, hpend]
      rcases Nat.eq_or_lt_of_le (Nat.succ_le_of_lt hlt) with rfl | hlt'
      · rw [decide_eq_true hstop]
        refine ⟨place, table.push values, rfl, ?_⟩
        rw [Nat.succ_eq_add_one, Nat.add_sub_cancel_left]
        rfl
      · rw [decide_eq_false (hfirst _ (Nat.lt_succ_self _) hlt')]
        have hnum : (table.push values).numRows = table.numRows + 1 := rfl
        obtain ⟨place', table', hrest, hpending⟩ := ih { view with position := place }
          (table.push values) hlt' (by omega) fun k hk => hfirst k (by omega)
        refine ⟨place', table', hrest, hpending.trans ?_⟩
        have hdrop : m - table.numRows = m - (table.push values).numRows + 1 := by omega
        rw [hdrop, List.drop_succ_cons]

end

/-! ### Fetches -/

end Layer

namespace FetchSize

def start : FetchSize → View → View
  | rows _, v => v
  | all, v => v.rewind

def within : FetchSize → List Record → List Record
  | rows n, records => records.take n
  | all, records => records

def room (f : Faults) (s : Store) (v : View) : FetchSize → Nat
  | rows n => n
  | all => (f.countOf s v.rewind true).toNat

end FetchSize

namespace Layer

variable (f : Faults) (s : Store)

def quiet (l : Layer) : Layer := { l with interrupt := none }

/-- How many rows a fetch delivers that no one stops. -/
def delivered (l : Layer) (o : OpenLayer) (size : FetchSize) : Nat :=
  if (l.plan o).fits (size.room f s o.view) then
    ((size.within ((size.start o.view).pending (s.table o.view.table))).takeWhile
      (readable f (l.plan o) l.reading o.view)).length
  else 0

theorem fetch_eq (o : OpenLayer) (size : FetchSize) : ∃ expected limit,
    (∀ l : Layer, l.state = some o → l.fetch f s size =
      l.fetchFrom f s o (size.start o.view) expected (size.room f s o.view) limit) ∧
    ((size.start o.view).pending (s.table o.view.table)).take limit =
      size.within ((size.start o.view).pending (s.table o.view.table)) := by
  have hlen := View.pending_le_entries (s.table o.view.table) (size.start o.view)
  cases size with
  | rows n =>
    refine ⟨_, _, fun l ho => fetch_rows f s ho n, ?_⟩
    rw [FetchSize.within, List.take_eq_take_iff]
    omega
  | all => exact ⟨_, _, fun l ho => fetch_all f s ho, List.take_of_length_le (by omega)⟩

variable {f s} {l : Layer} {o : OpenLayer} {i : Interrupt} {view : View} {room limit : Nat}

theorem fetchFrom_of_unstopped (hi : l.interrupt = some i) (hroom : (l.plan o).fits room = true)
    (expected : Option Int)
    (h : ∀ m, 0 < m → m ≤ rowsAhead f s (l.plan o) l.reading limit view →
      ¬ i.StopsAt l.reading.pollInterval m) :
    l.fetchFrom f s o view expected room limit =
      let quiet := l.quiet.fetchFrom f s o view expected room limit
      (quiet.1, quiet.2.1, { quiet.2.2 with interrupt := some (i.asked
        (rowsAhead f s (l.plan o) l.reading limit view / l.reading.pollInterval)) }) := by
  have hrows := (numRows_fetchRows f s (l.plan o) l.reading limit view (.start (l.plan o))).trans
    (Nat.zero_add _)
  have hfetch := fetchRows_of_unstopped f s (l.plan o) l.reading i limit view (.start (l.plan o))
    fun m hm hle => h m hm (by rwa [Table.start, Nat.zero_add] at hle)
  have hplan : l.quiet.plan o = l.plan o := rfl
  have hreading : l.quiet.reading = l.reading := rfl
  have hquiet : l.quiet.interrupt = none := rfl
  have hasked : i.asked ((Table.start (l.plan o)).numRows / l.reading.pollInterval) = i := by
    rw [Table.start, Nat.zero_div]
    rfl
  rw [hasked] at hfetch
  unfold fetchFrom
  simp only [hroom, hi, hfetch, hplan, hreading, hquiet, Bool.not_true, Bool.false_eq_true, if_false]
  generalize fetchRows f s (l.plan o) l.reading limit ⟨view, .start (l.plan o), none⟩ = fetched
    at hrows ⊢
  obtain ⟨e, q⟩ := fetched
  rw [← hrows]
  cases e <;> rfl

theorem fetchFrom_of_stopped {m : Nat} (hi : l.interrupt = some i)
    (hroom : (l.plan o).fits room = true) (expected : Option Int) (hm : 0 < m)
    (hle : m ≤ rowsAhead f s (l.plan o) l.reading limit view)
    (hstop : i.StopsAt l.reading.pollInterval m)
    (hfirst : ∀ k, 0 < k → k < m → ¬ i.StopsAt l.reading.pollInterval k) :
    ∃ place, l.fetchFrom f s o view expected room limit =
        (.error (.interrupted m), [],
          { l.withState { o with view := { view with position := place }, scan := .scanning } with
            interrupt := some (i.asked (m / l.reading.pollInterval)) }) ∧
      ({ view with position := place } : View).pending (s.table view.table) =
        (view.pending (s.table view.table)).drop m := by
  obtain ⟨place, table, hfetch, hpending⟩ := fetchRows_of_stopped f s (l.plan o) l.reading i
    limit view (.start (l.plan o)) hm (by rwa [Table.start, Nat.zero_add]) hstop hfirst
  refine ⟨place, ?_, hpending⟩
  have hfetch : fetchRows f s (l.plan o) l.reading limit ⟨view, .start (l.plan o), l.interrupt⟩ =
      (.error (.interrupted m), ⟨{ view with position := place }, table,
        some (i.asked (m / l.reading.pollInterval))⟩) := by
    rw [hi, ← hfetch, Table.start, Nat.zero_div]
    rfl
  unfold fetchFrom
  simp only [hroom, hfetch]
  rfl

theorem next_value (f : Faults) (s : Store) (ho : l.state = some o) :
    (l.next f s).1 = match (o.view.pending (s.table o.view.table))[0]? with
      | none => .ok none
      | some r => ((l.plan o).decodeRow f.codec l.reading (f.spoil (o.view.project r))).map some := by
  unfold next
  rw [ho]
  simp only [Faults.next]
  cases hpend : o.view.pending (s.table o.view.table) with
  | nil =>
    obtain ⟨place, hnext, -⟩ := View.next_of_pending_eq_nil hpend
    rw [hnext]
    rfl
  | cons r rs =>
    obtain ⟨place, hnext, -⟩ := View.next_of_pending_eq_cons hpend
    rw [hnext]
    rfl

theorem delivered_eq {size : FetchSize} (hroom : (l.plan o).fits (size.room f s o.view) = true)
    (hlimit : ((size.start o.view).pending (s.table o.view.table)).take limit =
      size.within ((size.start o.view).pending (s.table o.view.table))) :
    l.delivered f s o size = rowsAhead f s (l.plan o) l.reading limit (size.start o.view) := by
  rw [delivered, if_pos hroom, ← hlimit]
  cases size <;> rfl

theorem fetchFrom_of_not_fits (f : Faults) (s : Store) (hroom : (l.plan o).fits room = false)
    (view : View) (expected : Option Int) (limit : Nat) :
    l.fetchFrom f s o view expected room limit =
      (.error (.allocation room), [], l.withState { o with view }) := by
  unfold fetchFrom
  simp only [hroom]
  rfl

theorem numRows_of_fetchFrom_quiet {expected : Option Int} {table : Table}
    (h : (l.quiet.fetchFrom f s o view expected room limit).1 = .ok table) :
    (l.plan o).fits room = true ∧
      table.numRows = rowsAhead f s (l.plan o) l.reading limit view := by
  have hrows := (numRows_fetchRows f s (l.plan o) l.reading limit view (.start (l.plan o))).trans
    (Nat.zero_add _)
  have hplan : l.quiet.plan o = l.plan o := rfl
  cases hroom : (l.plan o).fits room with
  | false =>
    rw [fetchFrom_of_not_fits f s (hplan ▸ hroom)] at h
    cases h
  | true =>
    refine ⟨rfl, ?_⟩
    unfold fetchFrom at h
    simp only [hplan, hroom, Bool.not_true, Bool.false_eq_true, if_false] at h
    split at h
    · cases h
    · cases h
      exact hrows

theorem fetch_of_unstopped (ho : l.state = some o) (hi : l.interrupt = some i) (size : FetchSize)
    (h : ∀ m, 0 < m → m ≤ l.delivered f s o size → ¬ i.StopsAt l.reading.pollInterval m) :
    l.fetch f s size =
      let quiet := l.quiet.fetch f s size
      (quiet.1, quiet.2.1, { quiet.2.2 with
        interrupt := some (i.asked (l.delivered f s o size / l.reading.pollInterval)) }) := by
  obtain ⟨expected, limit, hfetch, hlimit⟩ := fetch_eq f s o size
  rw [hfetch l ho, hfetch l.quiet ho]
  cases hroom : (l.plan o).fits (size.room f s o.view) with
  | true =>
    rw [delivered_eq hroom hlimit] at h ⊢
    exact fetchFrom_of_unstopped hi hroom expected h
  | false =>
    have hplan : l.quiet.plan o = l.plan o := rfl
    have hasked : i.asked (0 / l.reading.pollInterval) = i := by
      rw [Nat.zero_div]
      rfl
    rw [fetchFrom_of_not_fits f s hroom, fetchFrom_of_not_fits f s (hplan ▸ hroom), delivered,
      if_neg (by rw [hroom]; decide), hasked, ← hi]
    rfl

theorem fetch_of_stopped (ho : l.state = some o) (hi : l.interrupt = some i) (size : FetchSize)
    {m : Nat} (hm : 0 < m) (hle : m ≤ l.delivered f s o size)
    (hstop : i.StopsAt l.reading.pollInterval m)
    (hfirst : ∀ k, 0 < k → k < m → ¬ i.StopsAt l.reading.pollInterval k) :
    ∃ place, l.fetch f s size = (.error (.interrupted m), [],
          { l.withState { o with view := { o.view with position := place }, scan := .scanning } with
            interrupt := some (i.asked (m / l.reading.pollInterval)) }) ∧
      ({ o.view with position := place } : View).pending (s.table o.view.table) =
        ((size.start o.view).pending (s.table o.view.table)).drop m := by
  obtain ⟨expected, limit, hfetch, hlimit⟩ := fetch_eq f s o size
  cases hroom : (l.plan o).fits (size.room f s o.view) with
  | true =>
    rw [delivered_eq hroom hlimit] at hle
    obtain ⟨place, hstopped, hpending⟩ :=
      fetchFrom_of_stopped hi hroom expected hm hle hstop hfirst
    refine ⟨place, ?_, ?_⟩
    · rw [hfetch l ho, hstopped]
      cases size <;> rfl
    · cases size <;> exact hpending
  | false =>
    rw [delivered, if_neg (by rw [hroom]; decide)] at hle
    exact absurd hm (Nat.not_lt_of_le hle)

theorem numRows_of_fetch_quiet (ho : l.state = some o) {size : FetchSize} {table : Table}
    (h : (l.quiet.fetch f s size).1 = .ok table) : table.numRows = l.delivered f s o size := by
  obtain ⟨expected, limit, hfetch, hlimit⟩ := fetch_eq f s o size
  rw [hfetch l.quiet ho] at h
  obtain ⟨hroom, hrows⟩ := numRows_of_fetchFrom_quiet h
  rw [hrows, delivered_eq hroom hlimit]

theorem fetch_quiet_ok (ho : l.state = some o) {size : FetchSize}
    (hroom : (l.plan o).fits (size.room .none s o.view) = true) :
    l.delivered .none s o size =
        (size.within ((size.start o.view).pending (s.table o.view.table))).length ∧
      ∃ table, (l.quiet.fetch .none s size).1 = .ok table := by
  obtain ⟨expected, limit, hfetch, -⟩ := fetch_eq .none s o size
  refine ⟨?_, ?_⟩
  · rw [delivered, if_pos hroom, List.takeWhile_eq_self_iff.mpr fun r _ => ?_]
    obtain ⟨values, hvalues⟩ := Faults.decode_ok (l.plan o) l.reading (o.view.project r)
    have hspoil : Faults.none.spoil (o.view.project r) = o.view.project r := rfl
    rw [readable, hspoil, hvalues]
    rfl
  · obtain ⟨table, _, htable, -⟩ := fetchFrom_ok (l := l.quiet) (o := o) hroom rfl s
      (size.start o.view) expected limit
    exact ⟨table, by rw [hfetch l.quiet ho, htable]⟩

/-- A fetch with someone to ask goes as one without, but for the questions: none where there is no
interval, otherwise one after each row whose number is a multiple of it. If the answer to one of them,
the first such, is to stop, the fetch ends there. It says how many rows there were, so many records are
consumed, and the next read gives the record after them. -/
theorem fetches_stop_when_told (f : Faults) (s : Store) {l : Layer} {i : Interrupt}
    (hi : l.interrupt = some i) (size : FetchSize) :
    (l.state = none → l.fetch f s size = (.error .layerClosed, [], l)) ∧
      ∀ o, l.state = some o →
        let n := l.reading.pollInterval
        let ahead := (size.start o.view).pending (s.table o.view.table)
        let rows := l.delivered f s o size
        let quiet := l.quiet.fetch f s size
        (n = 0 → l.fetch f s size = (quiet.1, quiet.2.1, { quiet.2.2 with interrupt := some i })) ∧
          (0 < n → (∀ j, 1 ≤ j → n * j ≤ rows → i.answer (i.polls + j) = false) →
            l.fetch f s size =
              (quiet.1, quiet.2.1, { quiet.2.2 with interrupt := some (i.asked (rows / n)) })) ∧
          (0 < n → ∀ j, 1 ≤ j → n * j ≤ rows → i.answer (i.polls + j) = true →
            (∀ k, 1 ≤ k → k < j → i.answer (i.polls + k) = false) →
            ∃ o' l', l.fetch f s size = (.error (.interrupted (n * j)), [], l') ∧
              l' = { l.withState o' with interrupt := some (i.asked j) } ∧
              (∃ place, o' =
                { o with view := { o.view with position := place }, scan := .scanning }) ∧
              o'.view.pending (s.table o.view.table) = ahead.drop (n * j) ∧
              (l'.next f s).1 = match ahead[n * j]? with
                | none => .ok none
                | some r => ((l.plan o).decodeRow f.codec l.reading
                    (f.spoil (o.view.project r))).map some) ∧
          (∀ table, quiet.1 = .ok table → table.numRows = rows) ∧
          (f = .none → (l.plan o).fits (size.room f s o.view) = true →
            rows = (size.within ahead).length ∧ ∃ table, quiet.1 = .ok table) := by
  refine ⟨fun hclosed => by unfold fetch; rw [hclosed], ?_⟩
  intro o ho n ahead rows quiet
  refine ⟨fun hn => ?_, fun hn hgo => ?_, fun hn j hj hle hstop hfirst => ?_,
    fun table h => numRows_of_fetch_quiet ho h, ?_⟩
  · have hasked : i.asked (rows / n) = i := by
      rw [hn, Nat.div_zero]
      rfl
    rw [← hasked]
    exact fetch_of_unstopped ho hi size fun m _ _ hstop => absurd hstop.1 (Nat.not_lt_of_le hn.le)
  · refine fetch_of_unstopped ho hi size fun m hm hle hstop => ?_
    obtain ⟨j, rfl⟩ := hstop.2.1
    rw [Interrupt.stopsAt_mul_iff hn, hgo j (Nat.pos_of_mul_pos_left hm) hle] at hstop
    cases hstop
  · have hnone : ∀ k, 0 < k → k < n * j → ¬ i.StopsAt n k := by
      intro k hk hlt hstop
      obtain ⟨j', rfl⟩ := hstop.2.1
      rw [Interrupt.stopsAt_mul_iff hn,
        hfirst j' (Nat.pos_of_mul_pos_left hk) (Nat.lt_of_mul_lt_mul_left hlt)] at hstop
      cases hstop
    obtain ⟨place, hfetch, hpending⟩ := fetch_of_stopped ho hi size (Nat.mul_pos hn hj) hle
      ((Interrupt.stopsAt_mul_iff hn j).mpr hstop) hnone
    rw [Nat.mul_div_cancel_left j hn] at hfetch
    refine ⟨_, _, hfetch, rfl, ⟨place, rfl⟩, hpending, ?_⟩
    rw [next_value f s rfl]
    simp only
    rw [hpending, List.getElem?_drop]
    rfl
  · rintro rfl hroom
    exact fetch_quiet_ok ho hroom

end Layer

namespace Workspace

def stopped : List Operation :=
  [.create "d" (some "c"), .createLayer "c" "t" .empty (some "u"),
    .view "u" (.create ⟨some 1, [], []⟩), .view "u" (.create ⟨some 2, [], []⟩),
    .view "u" (.create ⟨some 3, [], []⟩), .view "u" (.create ⟨some 4, [], []⟩),
    .view "u" (.create ⟨some 5, [], []⟩),
    .openLayer "d" (.name "t") ⟨.readOnly, .empty, none, none⟩ "l",
    .layer "l" (.configure { ReadOptions.default with pollInterval := 2 }),
    .layer "l" (.setInterrupt (some fun n => n = 2))]

theorem fetches_stop_when_told_after_four :
    let w := empty.run .none .exact stopped
    ∃ l l' o', w.layer? "l" = some l ∧
      l.fetch .none w.store .all = (.error (.interrupted 4), [], l') ∧ l'.state = some o' ∧
      (o'.view.pending (w.store.table o'.view.table)).map (·.fid) = [some 5] := by
  intro w
  have hopen : (w.openLayer? "l").any (fun e =>
      e.1.interrupt.any (fun i => i.polls = 0 && !i.answer 1 && i.answer 2) &&
        e.1.reading.pollInterval = 2 && 4 ≤ e.1.delivered .none w.store e.2 .all &&
        ((e.2.view.rewind.pending (w.store.table e.2.view.table)).drop 4).map (·.fid) = [some 5]) =
      true := by
    decide +kernel
  obtain ⟨l, o, hl, ho, hfacts⟩ := exists_of_openLayer?_any hopen
  simp only [Bool.and_eq_true, decide_eq_true_eq] at hfacts
  obtain ⟨⟨⟨hinterrupt, hinterval⟩, hrows⟩, hahead⟩ := hfacts
  obtain ⟨i, hi, hanswers⟩ := (Option.any_eq_true _ _).mp hinterrupt
  simp only [Bool.and_eq_true, decide_eq_true_eq, Bool.not_eq_true'] at hanswers
  obtain ⟨⟨hpolls, hfirst⟩, hsecond⟩ := hanswers
  obtain ⟨-, -, hstop, -⟩ := (Layer.fetches_stop_when_told .none w.store hi .all).2 o ho
  rw [hinterval, hpolls] at hstop
  obtain ⟨o', l', hfetch, hlayer, ⟨place, hplace⟩, hpending, -⟩ :=
    hstop (by decide) 2 (by decide) hrows hsecond fun k hk hlt => by
      obtain rfl : k = 1 := by omega
      exact hfirst
  refine ⟨l, l', o', hl, hfetch, by rw [hlayer]; rfl, ?_⟩
  have htable : o'.view.table = o.view.table := by rw [hplace]
  rw [htable, hpending]
  exact hahead

end Workspace

end FeatureLayer
