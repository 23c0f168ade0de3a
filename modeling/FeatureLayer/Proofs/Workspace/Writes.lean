import FeatureLayer.Proofs.Row.Encoding
import FeatureLayer.Proofs.Store.Writing
import FeatureLayer.Proofs.Workspace.Soundness

namespace FeatureLayer

namespace Layer

def target (s : Store) (l : Layer) (o : OpenLayer) : RowTarget :=
  ⟨o.schema, (s.table o.view.table).name, (s.table o.view.table).fidColumn,
    l.reading.unnamedGeometry⟩

/-- The record of a row has been stored under an identifier: the one that the row states, else the
next one. Just the fields that the row leaves out are filled with their fallbacks. -/
structure Stores (f : Faults) (s : Store) (l : Layer) (o : OpenLayer) (row : Row) (r : Record)
    (k : Int) (l' : Layer) (s' : Store) : Prop where
  encoded : l.encode f s o row = .ok r
  leftOut : ∀ i < o.schema.fields.length,
    (r.data[i]? = some .unset ↔ ¬(l.target s o).States row i)
  fid : k = ((l.target s o).statedFid? row).getD (s.table o.view.table).nextFid
  store : s' = s.setTable o.view.table ((s.table o.view.table).storing k r)
  records : ∀ j, (s'.table o.view.table).records.find? j =
    if j = k then some ((s.table o.view.table).filled k r)
    else (s.table o.view.table).records.find? j
  others : ∀ i, i ≠ o.view.table → s'.table i = s.table i
  lastWrite : l'.lastWrite? = some k

structure Refuses (s : Store) (l l' : Layer) (s' : Store) : Prop where
  store : s' = s
  lastWrite : l'.lastWrite? = l.lastWrite?

/-- A write stores a row under an identifier that was free in the sense given, or is refused. -/
def WritesAs (f : Faults) (s : Store) (l : Layer) (row : Row) (free : Option Record → Prop) :
    Except Error Int × Layer × Store → Prop
  | (.ok k, l', s') => ∃ o r, l.state = some o ∧ free ((s.table o.view.table).records.find? k) ∧
      l.Stores f s o row r k l' s'
  | (.error _, l', s') => l.Refuses s l' s'

def DeletesAs (s : Store) (l : Layer) (k : Int) : Bool × List Warning × Layer × Store → Prop
  | (true, _, l', s') => ∃ o, l.state = some o ∧
      ((s.table o.view.table).records.find? k).isSome = true ∧
      s' = s.setTable o.view.table
        { s.table o.view.table with records := (s.table o.view.table).records.erase k } ∧
      (∀ j, (s'.table o.view.table).records.find? j =
        if j = k then none else (s.table o.view.table).records.find? j) ∧
      (∀ i, i ≠ o.view.table → s'.table i = s.table i) ∧ l'.lastWrite? = l.lastWrite?
  | (false, _, l', s') => l.Refuses s l' s'

variable {f : Faults} {s : Store} {l : Layer} {o : OpenLayer} {row : Row} {r : Record}

theorem Refuses.refl (s : Store) (l : Layer) : l.Refuses s l s := ⟨rfl, rfl⟩

theorem fid_of_encode (h : l.encode f s o row = .ok r) :
    r.given? = (l.target s o).statedFid? row ∧ ∀ n, r.fid = some n → n ≠ Record.missingFid := by
  have hfid : r.fid = (l.target s o).statedFid? row := RowTarget.fid_of_encode h
  have hnamed : ∀ n, r.fid = some n → n ≠ Record.missingFid := by
    intro n hn
    rw [hfid, RowTarget.statedFid?] at hn
    obtain ⟨m, -, hm⟩ := Option.bind_eq_some_iff.mp hn
    rw [Record.fidOf] at hm
    split at hm <;> cases hm
    assumption
  refine ⟨?_, hnamed⟩
  rw [← hfid]
  cases hr : r.fid with
  | none => simp [Record.given?, hr]
  | some n => exact Record.given?_of_fid hr (hnamed n hr)

theorem writesAs_store {fault : Option Error} {method : String} {capability : LayerCapability}
    {act : FeatureTable → Except FeatureTable.Rejection (Int × FeatureTable)}
    {free : Option Record → Prop} (ho : l.state = some o) (hv : o.view.Proper s)
    (henc : l.encode f s o row = .ok r)
    (hact : ∀ k t', (s.table o.view.table).Counted → act (s.table o.view.table) = .ok (k, t') →
      k = r.given?.getD (s.table o.view.table).nextFid ∧
        free ((s.table o.view.table).records.find? k) ∧
        t' = (s.table o.view.table).storing k r) (m : String) :
    l.WritesAs f s row free
      (l.store s o fault method fun t v => v.write t capability m act) := by
  have hrefuse : ∀ d, l.Refuses s (l.withState { o with view := { o.view with lastError := d } }) s :=
    fun d => ⟨rfl, by simp [lastWrite?, withState, ho]⟩
  unfold store Faults.write
  cases fault with
  | some e => exact hrefuse o.view.lastError
  | none =>
    simp only [Store.write]
    rcases View.write_cases (s.table o.view.table) o.view capability m act with
      ⟨e, d, heq⟩ | ⟨k, t', hw, hk, heq⟩
    · rw [heq]
      simp only [Store.setTable_table]
      exact hrefuse d
    · have hc := hv.counted.resolve_right fun hr => by simp [hw] at hr
      obtain ⟨hfid, hfree, rfl⟩ := hact k t' hc hk
      rw [heq]
      refine ⟨o, r, ho, hfree, henc, ?_, ?_, rfl, fun j => ?_, fun i hi => ?_, rfl⟩
      · exact fun i hi => RowTarget.unset_iff_of_encode henc hi
      · rw [hfid, (fid_of_encode henc).1]
      · rw [Store.table_setTable, if_pos ⟨rfl, hv.lt⟩, FeatureTable.find?_storing]
      · rw [Store.table_setTable, if_neg fun h => hi h.1.symm]

theorem create_writesAs (hv : ∀ o, l.state = some o → o.view.Proper s) (row : Row) :
    l.WritesAs f s row (· = none) (l.create f s row) := by
  unfold create
  cases ho : l.state with
  | none => exact .refl s l
  | some o =>
    simp only
    cases henc : l.encode f s o row with
    | error e => exact .refl s l
    | ok r => exact writesAs_store ho (hv o ho) henc (fun k t' => FeatureTable.storing_of_insert) _

theorem replace_writesAs (hv : ∀ o, l.state = some o → o.view.Proper s) (row : Row) :
    l.WritesAs f s row (·.isSome = true) (l.replace f s row) := by
  unfold replace
  cases ho : l.state with
  | none => exact .refl s l
  | some o =>
    simp only
    cases henc : l.encode f s o row with
    | error e => exact .refl s l
    | ok r =>
      simp only
      cases hr : r.fid with
      | none => exact .refl s l
      | some n =>
        refine writesAs_store ho (hv o ho) henc (fun k t' hc h => ?_) _
        obtain ⟨hk, hin, ht⟩ := FeatureTable.storing_of_replace hc h
        rw [Record.given?_of_fid hr ((fid_of_encode henc).2 n hr)]
        exact ⟨by simpa [hr] using hk, hin, ht⟩

theorem upsert_writesAs (hv : ∀ o, l.state = some o → o.view.Proper s) (row : Row) :
    l.WritesAs f s row (fun _ => True) (l.upsert f s row) := by
  unfold upsert
  cases ho : l.state with
  | none => exact .refl s l
  | some o =>
    simp only
    split
    · exact .refl s l
    · cases henc : l.encode f s o row with
      | error e => exact .refl s l
      | ok r =>
        refine writesAs_store ho (hv o ho) henc (fun k t' hc h => ?_) _
        obtain ⟨hk, ht⟩ := FeatureTable.storing_of_upsert hc (fid_of_encode henc).2 h
        exact ⟨hk, trivial, ht⟩

theorem delete_deletesAs (hv : ∀ o, l.state = some o → o.view.Proper s) (k : Int) :
    l.DeletesAs s k (l.delete f s k) := by
  unfold delete
  cases ho : l.state with
  | none => exact .refl s l
  | some o =>
    simp only
    split
    · exact .refl s l
    · have hrefuse : ∀ d, l.Refuses s
          (l.withState { o with view := { o.view with lastError := d } }) s :=
        fun d => ⟨rfl, by simp [lastWrite?, withState, ho]⟩
      unfold Faults.write
      cases f.delete with
      | some e => exact hrefuse o.view.lastError
      | none =>
        simp only [Store.write]
        rcases View.write_cases (s.table o.view.table) o.view .deleteFeature "OGR_L_DeleteFeature"
          (·.delete k) with ⟨e, d, heq⟩ | ⟨n, t', -, hn, heq⟩
        · rw [View.delete, heq]
          simp only [Store.setTable_table]
          exact hrefuse d
        · obtain ⟨rfl, hin, rfl⟩ := FeatureTable.delete_ok hn
          rw [View.delete, heq]
          refine ⟨o, ho, ?_, rfl, fun j => ?_, fun i hi => ?_, ?_⟩
          · rwa [← FidMap.contains_eq_isSome]
          · rw [Store.table_setTable, if_pos ⟨rfl, (hv o ho).lt⟩, FidMap.find?_erase]
          · rw [Store.table_setTable, if_neg fun h => hi h.1.symm]
          · simp [lastWrite?, withState, ho]

end Layer

namespace Workspace

/-- Writes through a layer refine updates of the finite map of its table at one identifier. A write
that fails leaves the store and the identifier last written as they are. -/
theorem writes_refine_map (f : Faults) (A : RegionAlgebra) (ops : List Operation) (name : String)
    (l : Layer) (hl : (empty.run f A ops).layer? name = some l) :
    let s := (empty.run f A ops).store
    (∀ row, l.WritesAs f s row (· = none) (l.create f s row)) ∧
      (∀ row, l.WritesAs f s row (·.isSome = true) (l.replace f s row)) ∧
      (∀ row, l.WritesAs f s row (fun _ => True) (l.upsert f s row)) ∧
      ∀ k, l.DeletesAs s k (l.delete f s k) := by
  have hs : (empty.run f A ops).Sound := sound_empty.run ops
  have hv : ∀ o, l.state = some o → o.view.Proper (empty.run f A ops).store :=
    fun o ho => hs.held _ (.inr ⟨name, l, o, hl, ho, rfl⟩)
  exact ⟨Layer.create_writesAs hv, Layer.replace_writesAs hv, Layer.upsert_writesAs hv,
    Layer.delete_deletesAs hv⟩

theorem writes_refine_map_of_given :
    let w := empty.run .none .exact
      [.create "d" (some "c"), .createLayer "c" "t" .empty none,
        .openLayer "d" (.name "t") ⟨.readWrite, .empty, none, none⟩ "l"]
    ∃ l l' s', w.layer? "l" = some l ∧
      l.create .none w.store ⟨[("FID", .integer64 5)]⟩ = (.ok 5, l', s') ∧
      l'.lastWrite? = some 5 ∧ ∃ i, (s'.table i).records.find? 5 ≠ none := by
  intro w
  have hopen : ((w.layer? "l").any fun l =>
      (l.create .none w.store ⟨[("FID", .integer64 5)]⟩).1.toOption = some 5) = true := by decide
  obtain ⟨l, hl, hcreate⟩ := (Option.any_eq_true _ _).mp hopen
  have hwrites := (writes_refine_map .none .exact _ "l" l hl).1 ⟨[("FID", .integer64 5)]⟩
  generalize hout : l.create .none w.store ⟨[("FID", .integer64 5)]⟩ = out at hcreate
  obtain ⟨e | k, l', s'⟩ := out
  · simp [Except.toOption] at hcreate
  · obtain rfl : k = 5 := by simpa [Except.toOption] using hcreate
    have hwrites : l.WritesAs .none w.store ⟨[("FID", .integer64 5)]⟩ (· = none) (.ok 5, l', s') :=
      hout ▸ hwrites
    obtain ⟨o, r, -, -, hstores⟩ := hwrites
    exact ⟨l, l', s', hl, hout, hstores.lastWrite, o.view.table, by simp [hstores.records 5]⟩

end Workspace

end FeatureLayer
