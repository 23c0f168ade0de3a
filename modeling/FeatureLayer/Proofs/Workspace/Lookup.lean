import FeatureLayer.Proofs.Layer.Reading
import FeatureLayer.Proofs.Predicate.Identifier
import FeatureLayer.Proofs.Workspace.Soundness

namespace FeatureLayer

namespace Layer

variable {s : Store} {l : Layer} {o : OpenLayer}

def unfiltered (s : Store) (l : Layer) : Layer := ((l.setPredicate .none s "").2.2.setSpatial none).2

theorem unfiltered_state (ho : l.state = some o) :
    l.unfiltered s = l.withState { o with
      view := { o.view with predicate := none, spatial := none, position := none }
      filters := .none
      scan := .idle } := by
  unfold unfiltered setPredicate
  rw [ho]
  rfl

theorem lookup_eq (ho : l.state = some o) {fid : Int} {view : View}
    (h : Faults.none.setPredicate s 0 (o.view.setSpatial none)
      (some (fidPredicate (s.table o.view.table).fidColumn fid)) = (.ok (), view)) :
    (l.lookup .none s fid).1 =
      ((l.withState { o with view }).fetch .none s (.rows 1)).1.map (·.row? 0) := by
  unfold lookup
  rw [ho]
  simp only [h]

theorem setPredicate_of_parse_fidPredicate {fid : Int} {p : Predicate}
    (h : Predicate.parse (View.vocabulary (s.table o.view.table))
      (fidPredicate (s.table o.view.table).fidColumn fid) = .ok p) :
    Faults.none.setPredicate s 0 (o.view.setSpatial none)
      (some (fidPredicate (s.table o.view.table).fidColumn fid)) =
        (.ok (), { o.view with predicate := some p, spatial := none, position := none }) := by
  unfold Faults.setPredicate View.setPredicate
  simp only [Faults.none, View.setSpatial, View.rewind, filter_fidPredicate, h]

/-- The view under the predicate for one identifier. -/
def pick (v : View) (fid : Int) : View :=
  { v with
    predicate := some (.compare .fid .eq (.literal (.number (Binary.ofInt fid))))
    spatial := none
    position := none }

theorem setPredicate_fidPredicate (hv : (View.vocabulary (s.table o.view.table)).Identifies)
    (fid : Int) :
    Faults.none.setPredicate s 0 (o.view.setSpatial none)
      (some (fidPredicate (s.table o.view.table).fidColumn fid)) = (.ok (), pick o.view fid) :=
  setPredicate_of_parse_fidPredicate (Predicate.parse_fidPredicate hv fid)

theorem selected_pick (hs : (s.table o.view.table).Sound)
    (hk : ∀ k ∈ (s.table o.view.table).records.fids, k.natAbs ≤ 2 ^ 53) {fid : Int}
    (hfid : fid.natAbs ≤ 2 ^ 53) :
    ((pick o.view fid).selected (s.table o.view.table))[0]? =
      (s.table o.view.table).records.find? fid := by
  refine FidMap.head?_filter_values fun e he => ?_
  have hkey : e.1.natAbs ≤ 2 ^ 53 := hk e.1 (List.mem_map_of_mem he)
  simp only [View.admits, pick, Option.all_some, Option.all_none, Bool.and_true, hs.keyed e he,
    Option.getD_some]
  exact Predicate.holds_fid_iff hfid hkey _

theorem lookup_spec (ho : l.state = some o) (hi : l.interrupt = none)
    (hv : (View.vocabulary (s.table o.view.table)).Identifies)
    (hs : (s.table o.view.table).Sound)
    (hk : ∀ k ∈ (s.table o.view.table).records.fids, k.natAbs ≤ 2 ^ 53) {fid : Int}
    (hfid : fid.natAbs ≤ 2 ^ 53) :
    (l.lookup .none s fid).1 = .ok (((s.table o.view.table).records.find? fid).map fun r =>
      (l.plan o).tableRow Faults.none.codec l.reading (o.view.project r)) := by
  rw [lookup_eq ho (setPredicate_fidPredicate hv fid)]
  have ho₁ : (l.withState { o with view := pick o.view fid }).state =
      some { o with view := pick o.view fid } := rfl
  rw [fetch_rows .none s ho₁]
  obtain ⟨table, place, htable, -, -⟩ := fetchFrom_ok
    (l := l.withState { o with view := pick o.view fid }) (o := { o with view := pick o.view fid })
    (ReadPlan.fits_one _) hi s (pick o.view fid) none
    (min 1 ((s.table o.view.table).records.entries.length + 1))
  have hshows := shows_of_fetchFrom_eq_ok htable
  have hrow := hshows.row? 0
  have hmin : min 1 ((s.table o.view.table).records.entries.length + 1) = 1 := by omega
  rw [View.pending_eq_selected rfl, hmin, List.getElem?_map, List.getElem?_take_of_lt (by omega)] at hrow
  have hselected : ((pick o.view fid).selected (s.table (pick o.view fid).table))[0]? =
      (s.table o.view.table).records.find? fid := selected_pick hs hk hfid
  rw [hselected, Option.map_map] at hrow
  refine (congrArg (Except.map (·.row? 0)) htable).trans ?_
  exact congrArg Except.ok hrow

theorem row?_of_fetch_unfiltered (ho : l.state = some o) {table : Table}
    (h : ((l.unfiltered s).fetch .none s .all).1 = .ok table) (i : Nat) :
    table.row? i = ((s.table o.view.table).records.values[i]?).map fun r =>
      (l.plan o).tableRow Faults.none.codec l.reading (o.view.project r) := by
  rw [unfiltered_state ho] at h
  have hshows := shows_of_fetch_all rfl h
  have hselected : ∀ t : FeatureTable, View.selected t { o.view with
      predicate := none, spatial := none, position := none } = t.records.values := by
    intro t
    rw [View.selected, List.filter_eq_self]
    intro r _
    rfl
  have hrow := hshows.row? i
  rw [hselected, List.getElem?_map, Option.map_map] at hrow
  exact hrow

end Layer

namespace Workspace

/-- Where the identifier has a plain name that is no keyword and no name of a field, and identifiers
are small enough for doubles to tell them apart, a layer finds just the stored records, whatever its
filters and its place. It gives the row that a full read without filters gives. -/
theorem lookup_finds (A : RegionAlgebra) (ops : List Operation) (l : Layer) (o : OpenLayer)
    (ho : l.state = some o) (hi : l.interrupt = none) :
    let s := (empty.run .none A ops).store
    let t := s.table o.view.table
    (View.vocabulary t).Identifies → (∀ k ∈ t.records.fids, k.natAbs ≤ 2 ^ 53) →
    ∀ fid : Int, fid.natAbs ≤ 2 ^ 53 →
      (fid ∉ t.records.fids → (l.lookup .none s fid).1 = .ok none) ∧
      ∀ i, t.records.fids[i]? = some fid →
        ∃ row, (l.lookup .none s fid).1 = .ok (some row) ∧
          (∀ table, ((l.unfiltered s).fetch .none s .all).1 = .ok table →
            table.row? i = some row) ∧
          ((l.plan o).fits (Faults.none.countOf s { o.view with
              predicate := none, spatial := none, position := none } true).toNat = true →
            ∃ table, ((l.unfiltered s).fetch .none s .all).1 = .ok table) := by
  intro s t hv hk fid hfid
  have hs : t.Sound := (sound_empty.run ops).store.tables o.view.table
  have hlookup := Layer.lookup_spec ho hi hv hs hk hfid
  refine ⟨fun hnone => ?_, fun i hi' => ?_⟩
  · rw [hlookup, FidMap.find?_eq_none_iff.mpr hnone]
    rfl
  · obtain ⟨r, hvalue, hfind⟩ := FidMap.find?_of_getElem? hi'
    refine ⟨_, by rw [hlookup, hfind]; rfl, fun table htable => ?_, fun hroom => ?_⟩
    · rw [Layer.row?_of_fetch_unfiltered ho htable, hvalue]
      rfl
    · rw [Layer.unfiltered_state ho]
      exact Layer.fetch_all_ok rfl hi hroom

theorem lookup_finds_filtered :
    let w := empty.run .none .exact
      [.create "d" (some "c"), .createLayer "c" "t" .empty (some "v"),
        .view "v" (.create ⟨some (-7), [], []⟩), .view "v" (.create ⟨some 3, [], []⟩),
        .openLayer "d" (.name "t") ⟨.readOnly, .empty, none, none⟩ "l",
        .layer "l" (.setPredicate "FID > 5")]
    ∃ l row, w.layer? "l" = some l ∧ (l.lookup .none w.store (-7)).1 = .ok (some row) ∧
      (l.lookup .none w.store 4).1 = .ok none := by
  intro w
  have hopen : ((w.layer? "l").bind fun l => l.state.map fun o => (l, o)).any (fun e =>
      e.1.interrupt.isNone && e.2.view.table = 0) = true := by decide
  obtain ⟨⟨l, o⟩, he, hfacts⟩ := (Option.any_eq_true _ _).mp hopen
  obtain ⟨l', hl, he⟩ := Option.bind_eq_some_iff.mp he
  obtain ⟨o', ho, he⟩ := Option.map_eq_some_iff.mp he
  cases he
  simp only [Bool.and_eq_true, Option.isNone_iff_eq_none, decide_eq_true_eq] at hfacts
  obtain ⟨hi, htable⟩ := hfacts
  have hfids : (w.store.table 0).records.fids = [-7, 3] := by decide
  have hv : (View.vocabulary (w.store.table 0)).Identifies :=
    ⟨by decide, by decide, by decide, by decide⟩
  have hlookup := lookup_finds .exact _ l o ho hi (htable ▸ hv)
    (by rw [htable]; intro k hk; rw [hfids] at hk; revert k; decide)
  obtain ⟨row, hrow, -⟩ := (hlookup (-7) (by decide)).2 0 (by rw [htable, hfids]; rfl)
  exact ⟨l, row, hl, hrow, (hlookup 4 (by decide)).1 (by rw [htable, hfids]; decide)⟩

end Workspace

end FeatureLayer
