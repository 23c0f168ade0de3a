import FeatureLayer.Proofs.Layer.Reading
import FeatureLayer.Proofs.Workspace.Soundness
/-!
Reading record by record, in pages and after a seek goes through the same list: the selected records
in the order of their identifiers.
-/

namespace FeatureLayer

inductive ReadCall where
  | next
  | page (n : Nat)
  deriving DecidableEq, Repr

namespace ReadCall

def request : ReadCall → LayerRequest
  | next => .next
  | page n => .fetch (.rows n)

def size : ReadCall → Nat
  | next => 1
  | page n => n

end ReadCall

/-- The answer to a read delivers these records: a row for one, none at the end, or a page of them. -/
inductive Delivers (plan : ReadPlan) (options : ReadOptions) :
    ReadCall → List Record → Except Error Reply → Prop
  | ended : Delivers plan options .next [] (.ok (.row none))
  | row {r : Record} {row : Row} (h : plan.decodeRow Faults.none.codec options r = .ok row) :
      Delivers plan options .next [r] (.ok (.row (some row)))
  | page {n : Nat} {records : List Record} {table : Table} (h : table.Shows plan options records) :
      Delivers plan options (.page n) records (.ok (.table table))

/-- The answers to reads deliver a list piece by piece, each as long as it is asked for and the list
lasts. -/
def DeliversInTurn (plan : ReadPlan) (options : ReadOptions) :
    List ReadCall → List Record → List (Except Error Reply) → Prop
  | [], _, [] => True
  | c :: cs, records, a :: answers =>
    Delivers plan options c (records.take c.size) a ∧
      DeliversInTurn plan options cs (records.drop c.size) answers
  | _, _, _ => False

namespace Layer

def reads (f : Faults) : Store → Layer → List ReadCall → List (Except Error Reply)
  | _, _, [] => []
  | s, l, c :: cs =>
    let out := l.ask f s c.request
    out.value :: reads f out.store out.layer cs

variable {s : Store} {l : Layer} {o : OpenLayer}

/-- What a read comes to: it delivers the first of the records ahead, and leaves the others. -/
structure ReadsAhead (s : Store) (l : Layer) (o : OpenLayer) (c : ReadCall)
    (out : Outcome) : Prop where
  delivers : Delivers (l.plan o) l.reading c
    (((o.view.pending (s.table o.view.table)).map o.view.project).take c.size) out.value
  store : out.store = s
  layer : ∃ place, out.layer = l.withState
      { o with view := { o.view with position := place }, scan := .scanning } ∧
    ({ o.view with position := place } : View).pending (s.table o.view.table) =
      (o.view.pending (s.table o.view.table)).drop c.size

theorem ask_next (ho : l.state = some o) : l.ReadsAhead s o .next (l.ask .none s .next) := by
  have hnext : l.ask .none s .next =
      ⟨(l.next .none s).1.map .row, [], (l.next .none s).2, s⟩ := rfl
  rw [hnext]
  unfold next
  rw [ho]
  simp only [Faults.none_next]
  cases hpend : o.view.pending (s.table o.view.table) with
  | nil =>
    obtain ⟨place, hview, hnil⟩ := View.next_of_pending_eq_nil hpend
    rw [hview]
    constructor
    · rw [hpend]
      exact .ended
    · rfl
    · rw [hpend]
      exact ⟨place, rfl, hnil⟩
  | cons r rs =>
    obtain ⟨place, hview, hrest⟩ := View.next_of_pending_eq_cons hpend
    obtain ⟨values, hvalues⟩ := Faults.decode_ok (l.plan o) l.reading (o.view.project r)
    have hrow : (l.plan o).decodeRow Faults.none.codec l.reading (o.view.project r) =
        .ok (Row.ofList ((l.plan o).names.zip values)) := by
      rw [ReadPlan.decodeRow, hvalues]
      rfl
    rw [hview]
    simp only [hrow]
    constructor
    · rw [hpend]
      exact .row hrow
    · rfl
    · rw [hpend]
      exact ⟨place, rfl, hrest⟩

theorem ask_page (ho : l.state = some o) (hi : l.interrupt = none) {n : Nat}
    (hroom : (l.plan o).fits n = true) :
    l.ReadsAhead s o (.page n) (l.ask .none s (.fetch (.rows n))) := by
  have hfetch : l.ask .none s (.fetch (.rows n)) =
      ⟨(l.fetch .none s (.rows n)).1.map .table, (l.fetch .none s (.rows n)).2.1,
        (l.fetch .none s (.rows n)).2.2, s⟩ := rfl
  rw [hfetch, fetch_rows .none s ho]
  have hlen := View.pending_le_entries (s.table o.view.table) o.view
  generalize hlimit : min n ((s.table o.view.table).records.entries.length + 1) = limit
  -- the limit is there for the records alone, of which there are fewer
  have htake : (o.view.pending (s.table o.view.table)).take limit =
      (o.view.pending (s.table o.view.table)).take n := by
    rw [List.take_eq_take_iff]
    omega
  have hdrop : (o.view.pending (s.table o.view.table)).drop limit =
      (o.view.pending (s.table o.view.table)).drop n := by
    by_cases hn : n ≤ (s.table o.view.table).records.entries.length + 1
    · rw [← hlimit, Nat.min_eq_left hn]
    · rw [List.drop_eq_nil_of_le (by omega), List.drop_eq_nil_of_le (by omega)]
  obtain ⟨table, place, htable, hlayer, hpending⟩ :=
    fetchFrom_ok (o := o) hroom hi s o.view none limit
  have hshows := shows_of_fetchFrom_eq_ok htable
  rw [htake] at hshows
  constructor
  · rw [htable, ← List.map_take]
    exact .page hshows
  · rfl
  · exact ⟨place, hlayer, hpending.trans hdrop⟩

theorem deliversInTurn_reads (ho : l.state = some o) (hi : l.interrupt = none) {cs : List ReadCall}
    (hroom : ∀ n, .page n ∈ cs → (l.plan o).fits n = true) :
    DeliversInTurn (l.plan o) l.reading cs
      ((o.view.pending (s.table o.view.table)).map o.view.project) (l.reads .none s cs) := by
  induction cs generalizing l o with
  | nil => trivial
  | cons c cs ih =>
    have hread : l.ReadsAhead s o c (l.ask .none s c.request) := by
      cases c with
      | next => exact ask_next ho
      | page n => exact ask_page ho hi (hroom n List.mem_cons_self)
    obtain ⟨hdelivers, hstore, place, hlayer, hpending⟩ := hread
    refine ⟨hdelivers, ?_⟩
    rw [hstore, hlayer, ← List.map_drop, ← hpending]
    exact ih (l := l.withState { o with
      view := { o.view with position := place }, scan := .scanning }) rfl hi
      fun n hn => hroom n (List.mem_cons_of_mem _ hn)

end Layer

namespace Workspace

/-- Reads that follow one another deliver the selected records from the first on, or from any other
after a seek to it, without a gap, a repetition or an end before the last. -/
theorem reads_in_scan_order (A : RegionAlgebra) (ops : List Operation) :
    let w := empty.run .none A ops
    ∀ name l o, w.layer? name = some l → l.state = some o → l.interrupt = none →
      ∀ cs, (∀ n, .page n ∈ cs → (l.plan o).fits n = true) →
        let selected := (o.view.selected (w.store.table o.view.table)).map o.view.project
        (o.scan = .idle →
          DeliversInTurn (l.plan o) l.reading cs selected (l.reads .none w.store cs)) ∧
          ∀ k : Nat, ∃ l', l.ask .none w.store (.seek k) = ⟨.ok .done, [], l', w.store⟩ ∧
            DeliversInTurn (l.plan o) l.reading cs (selected.drop k) (l'.reads .none w.store cs) := by
  have hw : (empty.run .none A ops).Sound := sound_empty.run ops
  generalize empty.run .none A ops = w at hw ⊢
  intro w name l o hl ho hi cs hroom selected
  refine ⟨fun hidle => ?_, fun k => ?_⟩
  · have hreads := Layer.deliversInTurn_reads (s := w.store) ho hi hroom
    rwa [View.pending_eq_selected (hw.atStart name l o hl ho hidle)] at hreads
  · obtain ⟨place, hseek, hpending⟩ :=
      View.seek_spec (hw.store.tables o.view.table) o.view k
    refine ⟨l.withState { o with
      view := { o.view with position := place }, scan := .scanning }, ?_, ?_⟩
    · have hask : l.ask .none w.store (.seek k) =
          ⟨(l.seek .none w.store k).1.map fun _ => .done, [], (l.seek .none w.store k).2,
            w.store⟩ := rfl
      have hto : Faults.none.seekTo w.store o.view k =
          (.ok (), { o.view with position := place }) := hseek
      have hlayer : l.seek .none w.store k = (.ok (), l.withState { o with
          view := { o.view with position := place }, scan := .scanning }) := by
        unfold Layer.seek
        simp only
        rw [if_neg (by omega), ho]
        simp only [hto]
      rw [hask, hlayer]
      rfl
    · have hreads := Layer.deliversInTurn_reads (s := w.store) (l := l.withState { o with
        view := { o.view with position := place }, scan := .scanning }) rfl hi hroom
      rw [← List.map_drop, ← hpending]
      exact hreads

theorem reads_in_scan_order_of_three :
    let w := empty.run .none .exact
      [.create "d" (some "c"), .createLayer "c" "t" .empty (some "v"),
        .view "v" (.create ⟨some 7, [], []⟩), .view "v" (.create ⟨some 2, [], []⟩),
        .view "v" (.create ⟨none, [], []⟩),
        .openLayer "d" (.name "t") ⟨.readOnly, .empty, none, none⟩ "l"]
    ∃ l o, w.layer? "l" = some l ∧ l.state = some o ∧
      (o.view.selected (w.store.table o.view.table)).map (·.fid) = [some 2, some 7, some 8] ∧
      DeliversInTurn (l.plan o) l.reading [.page 2, .next, .next]
        ((o.view.selected (w.store.table o.view.table)).map o.view.project)
        (l.reads .none w.store [.page 2, .next, .next]) := by
  intro w
  have hopen : ((w.layer? "l").bind fun l => l.state.map fun o => (l, o)).any (fun e =>
      e.1.interrupt.isNone && e.2.scan = .idle && (e.1.plan e.2).fits 2 &&
        (e.2.view.selected (w.store.table e.2.view.table)).map (·.fid) =
          [some 2, some 7, some 8]) = true := by decide
  obtain ⟨⟨l, o⟩, he, hfacts⟩ := (Option.any_eq_true _ _).mp hopen
  obtain ⟨l', hl, he⟩ := Option.bind_eq_some_iff.mp he
  obtain ⟨o', ho, he⟩ := Option.map_eq_some_iff.mp he
  cases he
  simp only [Bool.and_eq_true, Option.isNone_iff_eq_none, decide_eq_true_eq] at hfacts
  obtain ⟨⟨⟨hi, hidle⟩, hfits⟩, hfids⟩ := hfacts
  refine ⟨l, o, hl, ho, hfids, ?_⟩
  refine (reads_in_scan_order .exact _ "l" l o hl ho hi [.page 2, .next, .next] ?_).1 hidle
  intro n hn
  obtain rfl : n = 2 := by simpa using hn
  exact hfits

end Workspace

end FeatureLayer
