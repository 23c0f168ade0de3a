import FeatureLayer.Proofs.Layer.Alike
import FeatureLayer.Proofs.Layer.Candid
import FeatureLayer.Proofs.Workspace.Writes

namespace FeatureLayer

theorem Record.Restored.congr {s s' : Schema} {r r' : Record} (h : r.Restored s r')
    (hf : s'.fields = s.fields) : r.Restored s' r' where
  fid := h.fid
  length_data := h.length_data
  data := hf ▸ h.data
  geometries := h.geometries

namespace Layer

variable {s s' : Store} {l l' : Layer} {o : OpenLayer}

theorem writable_of_can (ho : l.state = some o) (h : l.can .none s "RandomWrite" = true) :
    o.view.writable = true ∧ (s.table o.view.table).capabilities.contains .randomWrite = true := by
  have hname : LayerCapability.ofName? "RandomWrite" = some .randomWrite := by decide
  have hview : (o.view.capabilities (s.table o.view.table)).contains .randomWrite = true := by
    have hcan : s.viewCan o.view "RandomWrite" = true := by
      simpa [can, ho, Faults.viewCan, Faults.none] using h
    rw [Store.viewCan, if_neg (by decide), hname] at hcan
    exact hcan
  unfold View.capabilities at hview
  simp only at hview
  split at hview
  next hw => exact ⟨hw, hview⟩
  next =>
    rw [List.contains_iff_mem, List.mem_filter] at hview
    exact absurd hview.2 (by decide)

theorem reads_next_getElem? (ho : l.state = some o) {i : Nat} {r : Record} {row : Row}
    (hr : (o.view.pending (s.table o.view.table))[i]? = some r)
    (hrow : (l.plan o).decodeRow Faults.none.codec l.reading (o.view.project r) = .ok row) :
    (l.reads .none s (List.replicate (i + 1) .next))[i]? = some (.ok (.row (some row))) := by
  induction i generalizing l o with
  | zero =>
    obtain ⟨hdelivers, -, -⟩ := ask_next (s := s) ho
    cases hpending : o.view.pending (s.table o.view.table) with
    | nil => simp [hpending] at hr
    | cons x rs =>
      rw [hpending] at hr hdelivers
      obtain rfl := Option.some.inj hr
      simp only [List.map_cons, ReadCall.size, List.take_succ_cons, List.take_zero] at hdelivers
      generalize hanswer : (l.ask .none s .next).value = answer at hdelivers
      cases hdelivers with
      | row h =>
        obtain rfl := Except.ok.inj (h.symm.trans hrow)
        simp [reads, ReadCall.request, hanswer]
  | succ i ih =>
    obtain ⟨-, hstore, place, hlayer, hpending⟩ := ask_next (s := s) ho
    rw [List.replicate_succ, reads]
    simp only [ReadCall.request, List.getElem?_cons_succ, hstore, hlayer]
    refine ih (l := l.withState { o with
      view := { o.view with position := place }, scan := .scanning }) rfl ?_ hrow
    rw [hpending, List.getElem?_drop, ReadCall.size, Nat.add_comm]
    exact hr

/-- What has to hold of an open layer for its rows to be taken back. -/
structure TakesBack (s : Store) (l : Layer) (o : OpenLayer) : Prop where
  state : l.state = some o
  writes : l.can .none s "RandomWrite" = true
  rereads : (l.target s o).Rereads l.reading
  ignored : o.ignored = .none
  unlimited : o.view.Unlimited
  schema : o.schema.bare = (s.table o.view.table).schema.bare
  lt : o.view.table < s.tables.length
  sound : (s.table o.view.table).Sound
  typed : ∀ e ∈ (s.table o.view.table).records.entries, e.2.Typed (s.table o.view.table).schema
  unique : ∀ f ∈ o.schema.fields, f.unique = true → f.subkind ≠ .boolean
  readsBack : ∀ e ∈ (s.table o.view.table).records.entries, ∀ g, some g ∈ e.2.geometries →
    l.reading.ReadsBack g

namespace TakesBack

theorem plan_eq (h : TakesBack s l o) : l.plan o = .make (l.target s o).schema .none l.reading := by
  rw [plan, h.ignored]
  rfl

theorem holds (h : TakesBack s l o) {e : Int × Record}
    (he : e ∈ (s.table o.view.table).records.entries) :
    (l.target s o).Holds l.reading e.2 where
  typed := (h.typed e he).congr (Schema.fields_of_bare h.schema)
    (Schema.length_geometryFields_of_bare h.schema)
  meets := Schema.meets_of_bare h.schema (h.sound.meets e he)
  readsBack := h.readsBack e he

theorem row_of_record (h : TakesBack s l o) {i : Nat} {e : Int × Record}
    (he : (s.table o.view.table).records.entries[i]? = some e) :
    ∃ row, (l.plan o).decodeRow Faults.none.codec l.reading e.2 = .ok row ∧
      (l.reset.2.reads .none s (List.replicate (i + 1) .next))[i]? = some (.ok (.row (some row))) ∧
      ∀ table, (l.fetch .none s .all).1 = .ok table → table.row? i = some row := by
  have hvalue : (s.table o.view.table).records.values[i]? = some e.2 := by
    rw [FidMap.values, List.getElem?_map, he]
    rfl
  have hselected : o.view.selected (s.table o.view.table) = (s.table o.view.table).records.values :=
    List.filter_eq_self.mpr fun r _ => h.unlimited.admits r
  have hreset : l.reset.2 = l.withState { o with view := o.view.rewind, scan := .idle } := by
    rw [reset, h.state]
  obtain ⟨values, hvalues⟩ := Faults.decode_ok (l.plan o) l.reading e.2
  have hreadable : e.2.Readable o.schema :=
    ((h.typed e (List.mem_of_getElem? he)).congr (Schema.fields_of_bare h.schema)
      (Schema.length_geometryFields_of_bare h.schema)).readable
  refine ⟨_, ReadPlan.decodeRow_eq_tableRow hreadable hvalues, ?_, fun table htable => ?_⟩
  · rw [hreset]
    refine reads_next_getElem? (r := e.2) rfl ?_ ?_
    · rw [View.pending_eq_selected rfl]
      exact (congrArg (·[i]?) hselected).trans hvalue
    · exact (congrArg _ (h.unlimited.project e.2)).trans
        (ReadPlan.decodeRow_eq_tableRow hreadable hvalues)
  · have hrow := (shows_of_fetch_all h.state htable).row? i
    rw [hselected, List.getElem?_map, hvalue, Option.map_some, Option.map_some,
      h.unlimited.project] at hrow
    exact hrow

theorem replace (h : TakesBack s l o) {k : Int} {r : Record}
    (he : (k, r) ∈ (s.table o.view.table).records.entries) {row : Row}
    (hrow : (l.plan o).decodeRow Faults.none.codec l.reading r = .ok row) :
    ∃ l' s' o', l.replace .none s row = (.ok k, l', s') ∧ Alike s s' l l' o o' ∧
      (s'.table o.view.table).nextFid = (s.table o.view.table).nextFid := by
  have hfields := Schema.fields_of_bare h.schema
  obtain ⟨hw, hcan⟩ := writable_of_can h.state h.writes
  rw [h.plan_eq] at hrow
  obtain ⟨r', henc, hr'⟩ := RowTarget.encode_of_decodeRow h.rereads (h.holds he)
    (h.sound.keyed _ he) (h.sound.named _ he) hrow
  have hencode : l.encode .none s o row = .ok r' := henc
  have hfid : r'.fid = some k := hr'.fid.trans (h.sound.keyed _ he)
  have hact := FeatureTable.replace_restored h.sound he (h.typed _ he) (hr'.congr hfields.symm)
    (hfields ▸ h.unique)
  have hwrite : o.view.replace (s.table o.view.table) r' =
      (.ok k, o.view, (s.table o.view.table).put k r') := by
    rw [View.replace, View.write, hw, hcan, hact]
    rfl
  have htable : (s.setTable o.view.table ((s.table o.view.table).put k r')).table o.view.table =
      (s.table o.view.table).put k r' := by
    rw [Store.table_setTable, if_pos ⟨rfl, h.lt⟩]
  refine ⟨l.withState { o with lastWrite := some k }, s.setTable o.view.table ((s.table o.view.table).put k r'),
    { o with lastWrite := some k }, ?_,
    ⟨h.state, rfl, rfl, rfl, rfl, rfl, rfl, h.unlimited, ?_, ?_⟩,
    ?_⟩
  · unfold Layer.replace
    rw [h.state]
    simp only [hencode, hfid, Option.isNone_some, Bool.false_eq_true, if_false]
    unfold Layer.store Faults.write Store.write
    simp only [Faults.none, hwrite]
  · rw [htable]
    rfl
  · rw [htable]
    refine FeatureTable.decoded_put h.sound he hr'.fid ?_
    rw [h.plan_eq]
    exact ReadPlan.decode_of_restored hr' (h.holds he).typed
  · rw [htable]
    rfl

end TakesBack

end Layer

end FeatureLayer
