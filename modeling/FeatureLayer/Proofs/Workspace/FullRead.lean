import FeatureLayer.Proofs.Layer.Reading
import FeatureLayer.Proofs.Workspace.Soundness

namespace FeatureLayer

def OpenLayer.movedTo (o : OpenLayer) (place : Option Int) (scan : Scan) : OpenLayer :=
  { o with view := { o.view with position := place }, scan }

namespace Layer

variable {s : Store} {l : Layer} {o : OpenLayer}

theorem fetchFrom_movedTo (f : Faults) (s : Store) (place : Option Int) (scan : Scan) (view : View)
    (expected : Option Int) (room limit : Nat) :
    ((l.withState (o.movedTo place scan)).fetchFrom f s (o.movedTo place scan) view expected room
      limit).1 = (l.fetchFrom f s o view expected room limit).1 := by
  have hplan : (l.withState (o.movedTo place scan)).plan (o.movedTo place scan) = l.plan o := rfl
  have hreading : (l.withState (o.movedTo place scan)).reading = l.reading := rfl
  have hinterrupt : (l.withState (o.movedTo place scan)).interrupt = l.interrupt := rfl
  unfold fetchFrom
  simp only
  rw [hplan, hreading, hinterrupt]
  split
  · rfl
  · split <;> rfl

theorem fetch_all_movedTo (f : Faults) (s : Store) (ho : l.state = some o) (place : Option Int)
    (scan : Scan) :
    ((l.withState (o.movedTo place scan)).fetch f s .all).1 = (l.fetch f s .all).1 := by
  have hstate : (l.withState (o.movedTo place scan)).state = some (o.movedTo place scan) := rfl
  rw [fetch_all f s hstate, fetch_all f s ho]
  exact fetchFrom_movedTo f s place scan _ _ _ _

theorem fetch_all_spec (ho : l.state = some o) (hi : l.interrupt = none) {count : Int}
    (hcount : Faults.none.countOf s o.view true = count)
    (hroom : (l.plan o).fits count.toNat = true) :
    ∃ table, (l.fetch .none s .all).1 = .ok table ∧
      table.Shows (l.plan o) l.reading
        ((o.view.selected (s.table o.view.table)).map o.view.project) ∧
      table.warnings =
        if 0 ≤ count ∧ count < table.numRows then [.countMismatch count table.numRows] else [] := by
  subst hcount
  obtain ⟨table, htable⟩ := fetch_all_ok ho hi hroom
  refine ⟨table, htable, shows_of_fetch_all ho htable, ?_⟩
  rw [fetch_all .none s ho] at htable
  exact warnings_of_fetchFrom_eq_ok htable

end Layer

namespace Workspace

/-- Wherever the layer stands, fetching all gives the records that pass the filters, one a row, in the
order of their identifiers, whatever count is set for the table. It warns if that count, not being
negative, is less than the number of the rows; without a count there is nothing to warn of. -/
theorem full_reads_complete (A : RegionAlgebra) (ops : List Operation) :
    let w := empty.run .none A ops
    ∀ name l o, w.layer? name = some l → l.state = some o → l.interrupt = none →
      let t := w.store.table o.view.table
      let selected := o.view.selected t
      let count := t.reportedCount.getD selected.length
      (l.plan o).fits count.toNat = true →
        ∃ (table : Table) (fids : List Int),
          (∀ place scan, ((l.withState (o.movedTo place scan)).fetch .none w.store .all).1 = .ok table) ∧
            table.rows = selected.map (fun r =>
              (l.plan o).tableRow Faults.none.codec l.reading (o.view.project r)) ∧
            table.column? Row.fidName = some (.integer64 (fids.map some)) ∧
            selected.map (·.fid) = fids.map some ∧ fids.Pairwise (· < ·) ∧
            table.warnings = (if 0 ≤ count ∧ count < selected.length then
              [.countMismatch count selected.length] else []) ∧
            (t.reportedCount = none → table.warnings = []) := by
  have hw : (empty.run .none A ops).Sound := sound_empty.run ops
  generalize empty.run .none A ops = w at hw ⊢
  intro w name l o hl ho hi t selected count hroom
  obtain ⟨table, htable, hshows, hwarnings⟩ := Layer.fetch_all_spec ho hi (Faults.none_countOf _ _) hroom
  obtain ⟨fids, hfids, hascend⟩ := View.selected_fids (hw.store.tables o.view.table) o.view
  have hnum : table.numRows = selected.length := hshows.numRows.trans (List.length_map _)
  rw [hnum] at hwarnings
  refine ⟨table, fids, fun place scan => ?_, ?_, ?_, hfids, hascend, hwarnings, fun hnone => ?_⟩
  · rw [Layer.fetch_all_movedTo .none w.store ho, htable]
  · rw [hshows.holds.rows, List.map_map]
    rfl
  · rw [hshows.holds.column?_fidName, ← hfids, List.map_map]
    rfl
  · exact Layer.warnings_of_fetch_all ho hnone htable

def countedShort : List Operation :=
  [.create "d" (some "c"), .createLayer "c" "t" .empty (some "v"),
    .view "v" (.create ⟨some 7, [], []⟩), .view "v" (.create ⟨some 2, [], []⟩),
    .view "v" (.create ⟨some 1, [], []⟩), .view "v" (.setReportedCount (some 1)),
    .openLayer "d" (.name "t") ⟨.readOnly, .empty, none, none⟩ "l",
    .layer "l" (.setPredicate "FID > 1"), .layer "l" .next]

theorem full_reads_complete_when_counted_short :
    let w := empty.run .none .exact countedShort
    ∃ l table, w.layer? "l" = some l ∧ (l.fetch .none w.store .all).1 = .ok table ∧
      table.column? Row.fidName = some (.integer64 [some 2, some 7]) ∧
      table.warnings = [.countMismatch 1 2] := by
  intro w
  have hopen : (w.openLayer? "l").any (fun e =>
      let t := w.store.table e.2.view.table
      e.1.interrupt.isNone && t.reportedCount = some 1 && (e.1.plan e.2).fits 1 &&
        (e.2.view.selected t).map (·.fid) = [some 2, some 7] && e.2.view.position = some 2) = true := by
    decide +kernel
  obtain ⟨l, o, hl, ho, hfacts⟩ := exists_of_openLayer?_any hopen
  simp only [Bool.and_eq_true, Option.isNone_iff_eq_none, decide_eq_true_eq] at hfacts
  obtain ⟨⟨⟨⟨hi, hcount⟩, hfits⟩, hselected⟩, -⟩ := hfacts
  obtain ⟨table, fids, htable, -, hcolumn, hfids, -, hwarnings, -⟩ :=
    full_reads_complete .exact countedShort "l" l o hl ho hi (by rw [hcount]; exact hfits)
  have hlength : (o.view.selected (w.store.table o.view.table)).length = 2 :=
    (List.length_map _).symm.trans (congrArg List.length hselected)
  refine ⟨l, table, hl, ?_, ?_, ?_⟩
  · rw [← Layer.fetch_all_movedTo .none w.store ho none .idle]
    exact htable none .idle
  · rw [hcolumn, ← hfids, hselected]
  · rw [hwarnings, hcount, hlength]
    rfl

end Workspace

end FeatureLayer
