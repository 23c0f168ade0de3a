import FeatureLayer.Proofs.Layer.Tracking
import FeatureLayer.Proofs.Workspace.Overlaying
/-!
What the result layer of an overlay knows of its table. The table may get definitions early in an
overlay, while the layer reads them only when the overlay has succeeded.
-/

namespace FeatureLayer

/-! ### Records of another shape -/

namespace FeatureTable

variable {t : FeatureTable} {r : Record}

theorem prepare_eq_shape_iff : t.prepare r = .error .shape ↔
    ¬(r.data.length = t.schema.fields.length ∧
      r.geometries.length = t.schema.geometryFields.length) := by
  rw [not_and_or, prepare]
  split
  next h => simp [h]
  next h =>
    refine iff_of_false ?_ h
    simp only
    split <;> simp

theorem insert_eq_shape_iff : t.insert r = .error .shape ↔ t.prepare r = .error .shape := by
  unfold insert
  cases h : t.prepare r with
  | error e => simp [bind, Except.bind]
  | ok r' =>
    simp only [bind, Except.bind]
    refine iff_of_false ?_ nofun
    split
    · simp
    · split <;> simp

theorem replace_eq_shape_iff : t.replace r = .error .shape ↔
    t.records.contains (r.fid.getD Record.missingFid) = true ∧ t.prepare r = .error .shape := by
  unfold replace
  simp only
  split
  next h =>
    cases hp : t.prepare r <;> simp [h, bind, Except.bind]
  next h => simp [h]

theorem upsert_eq_shape_iff : t.upsert r = .error .shape ↔ t.prepare r = .error .shape := by
  unfold upsert
  split
  next h =>
    obtain ⟨fid, hfid, hcontains⟩ := (Option.any_eq_true _ _).mp h
    rw [replace_eq_shape_iff, hfid, Option.getD_some, and_iff_right hcontains]
  next => exact insert_eq_shape_iff

end FeatureTable

theorem Schema.Grows.eq_of_length {s s' : Schema} (h : s.Grows s')
    (hf : s'.fields.length = s.fields.length)
    (hg : s'.geometryFields.length = s.geometryFields.length) : s' = s := by
  refine congrArg₂ Schema.mk (h.fields.elim (fun hnil => ?_) id)
    (h.geometryFields.elim (fun hnil => ?_) id)
  · rw [hnil] at hf ⊢
    exact List.length_eq_zero_iff.mp hf
  · rw [hnil] at hg ⊢
    exact List.length_eq_zero_iff.mp hg

theorem Schema.length_of_defined {s s' : Schema} (h : s.defined = s'.defined) :
    s.fields.length = s'.fields.length ∧ s.geometryFields.length = s'.geometryFields.length := by
  have hf := congrArg (fun s => s.fields.length) h
  have hg := congrArg (fun s => s.geometryFields.length) h
  simp only [defined, List.length_map] at hf hg
  exact ⟨hf, hg⟩

theorem Schema.names_of_defined {s s' : Schema} (h : s.defined = s'.defined) (unnamed : String) :
    s.names unnamed = s'.names unnamed := by
  have hdefined : ∀ s : Schema, s.names unnamed = s.defined.names unnamed := fun s => by
    simp only [names, defined, List.map_map]
    rfl
  rw [hdefined s, h, ← hdefined s']

/-! ### What a layer knows -/

structure OpenLayer.Current (s : Store) (o : OpenLayer) : Prop where
  schema : o.schema.defined = (s.table o.view.table).schema.defined
  fieldNames : ∃ unnamed, o.fieldNames = (s.table o.view.table).schema.names unnamed

theorem OpenLayer.Current.congr {s s' : Store} {o o' : OpenLayer} (h : o.Current s)
    (hschema : o'.schema = o.schema) (hnames : o'.fieldNames = o.fieldNames)
    (htable : (s'.table o'.view.table).schema = (s.table o.view.table).schema) : o'.Current s' where
  schema := by rw [hschema, htable, h.schema]
  fieldNames := by rw [hnames, htable]; exact h.fieldNames

theorem Layer.length_of_encode {f : Faults} {s : Store} {l : Layer} {o : OpenLayer} {row : Row}
    {r : Record} (h : l.encode f s o row = .ok r) : r.data.length = o.schema.fields.length ∧
      r.geometries.length = o.schema.geometryFields.length :=
  RowTarget.shape_of_encode h

theorem OpenLayer.Current.prepare_ne_shape {f : Faults} {s : Store} {l : Layer} {o : OpenLayer}
    (h : o.Current s) {row : Row} {r : Record} (hr : l.encode f s o row = .ok r) :
    (s.table o.view.table).prepare r ≠ .error .shape := by
  obtain ⟨hf, hg⟩ := Layer.length_of_encode hr
  obtain ⟨hf', hg'⟩ := Schema.length_of_defined h.schema
  exact fun hshape => FeatureTable.prepare_eq_shape_iff.mp hshape ⟨hf.trans hf', hg.trans hg'⟩

/-- Whatever row the layer accepts is not refused for its shape. -/
structure Layer.UpToDate (f : Faults) (s : Store) (l : Layer) (o : OpenLayer) : Prop where
  current : o.Current s
  insert : ∀ row r, l.encode f s o row = .ok r → (s.table o.view.table).insert r ≠ .error .shape
  upsert : ∀ row r, l.encode f s o row = .ok r → (s.table o.view.table).upsert r ≠ .error .shape
  replace : ∀ row r, l.encode f s o row = .ok r → (s.table o.view.table).replace r ≠ .error .shape

theorem OpenLayer.Current.upToDate {s : Store} {o : OpenLayer} (h : o.Current s) (f : Faults)
    (l : Layer) : l.UpToDate f s o where
  current := h
  insert _ _ hr hshape := h.prepare_ne_shape hr (FeatureTable.insert_eq_shape_iff.mp hshape)
  upsert _ _ hr hshape := h.prepare_ne_shape hr (FeatureTable.upsert_eq_shape_iff.mp hshape)
  replace _ _ hr hshape := h.prepare_ne_shape hr (FeatureTable.replace_eq_shape_iff.mp hshape).2

/-- Whatever row the layer accepts is refused for its shape when it is to be added, or is to replace a
record that is there. -/
structure Layer.Outdated (f : Faults) (s : Store) (l : Layer) (o : OpenLayer) : Prop where
  schema : o.schema.defined ≠ (s.table o.view.table).schema.defined
  insert : ∀ row r, l.encode f s o row = .ok r → (s.table o.view.table).insert r = .error .shape
  upsert : ∀ row r, l.encode f s o row = .ok r → (s.table o.view.table).upsert r = .error .shape
  replace : ∀ row r, l.encode f s o row = .ok r →
    (s.table o.view.table).records.contains (r.fid.getD Record.missingFid) = true →
    (s.table o.view.table).replace r = .error .shape

/-- A layer that knew its table does no longer once the table has other definitions. -/
theorem Layer.outdated_of_grows {s : Store} {l : Layer} {o : OpenLayer} {t t' : FeatureTable}
    (ht' : s.table o.view.table = t') (hknown : o.schema.defined = t.schema.defined)
    (hgrows : t.schema.Grows t'.schema) (hne : t'.schema ≠ t.schema) (f : Faults) :
    l.Outdated f s o := by
  subst ht'
  obtain ⟨hf, hg⟩ := Schema.length_of_defined hknown
  have hshape : ∀ row r, l.encode f s o row = .ok r →
      (s.table o.view.table).prepare r = .error .shape := fun row r hr => by
    obtain ⟨hf', hg'⟩ := Layer.length_of_encode hr
    rw [FeatureTable.prepare_eq_shape_iff]
    rintro ⟨hdata, hgeometries⟩
    exact hne (hgrows.eq_of_length (by omega) (by omega))
  refine ⟨fun heq => ?_, fun row r hr => ?_, fun row r hr => ?_, fun row r hr hc => ?_⟩
  · obtain ⟨hf', hg'⟩ := Schema.length_of_defined heq
    exact hne (hgrows.eq_of_length (by omega) (by omega))
  · exact FeatureTable.insert_eq_shape_iff.mpr (hshape row r hr)
  · exact FeatureTable.upsert_eq_shape_iff.mpr (hshape row r hr)
  · exact FeatureTable.replace_eq_shape_iff.mpr ⟨hc, hshape row r hr⟩

/-! ### What an overlay leaves of the definitions -/

namespace Overlay

/-- An overlay gives the table of its result definitions that it lacks. -/
structure Defines (f : Faults) (kind : OverlayKind) (o : Options) (s : Store)
    (input method result : View) : Prop where
  unfailing : f.overlay = none
  writable : result.writable = true
  inputs : ∃ ps, collect kind o.skipFailures (input.selected (s.table input.table)) = .ok ps
  methods : ∃ ps, collect kind o.skipFailures (method.selected (s.table method.table)) = .ok ps
  grows : (prepare kind o (s.table input.table).schema.fields (s.table method.table).schema.fields
    (s.table result.table)).schema ≠ (s.table result.table).schema

theorem schema_writeAll (t : FeatureTable) (v : View) (rs : List Record) :
    (writeAll t v rs).2.2.schema = t.schema := by
  induction rs generalizing t v with
  | nil => rfl
  | cons r rs ih =>
    have hschema : (v.create t r).2.2.schema = t.schema := by
      obtain ⟨m, n, h⟩ := (View.writes_create r).holds t v
      rw [h]
      rfl
    rw [writeAll]
    generalize v.create t r = out at hschema ⊢
    obtain ⟨e | k, v', t'⟩ := out
    · exact hschema
    · exact (ih t' v').trans hschema

variable {kind : OverlayKind} {s : Store} {input method result : View} {o : Options}

theorem schema_run_of_collect (A : RegionAlgebra) (answer : Nat → Bool)
    (hlt : result.table < s.tables.length) (hw : result.writable = true) {inputs methods : List Part}
    (hinputs : collect kind o.skipFailures (input.selected (s.table input.table)) = .ok inputs)
    (hmethods : collect kind o.skipFailures (method.selected (s.table method.table)) = .ok methods) :
    ((run A kind s input method result o answer).store.table result.table).schema =
      (prepare kind o (s.table input.table).schema.fields (s.table method.table).schema.fields
        (s.table result.table)).schema := by
  rcases run_forms A kind s input method result o answer with
    ⟨e, -, hnot⟩ | ⟨-, inputs, methods, -, -, ⟨e, told, hout⟩ | ⟨told, hout⟩⟩
  · exact absurd ⟨hw, hinputs, hmethods⟩ (hnot inputs methods)
  · rw [hout, table_prepared hlt]
  · rw [hout, writeResult_eq hlt]
    simp only
    rw [setTable_prepared, Store.table_setTable, if_pos ⟨rfl, hlt⟩, schema_writeAll]

theorem store_run_of_not_collect (A : RegionAlgebra) (answer : Nat → Bool)
    (h : ¬(result.writable = true ∧
      (∃ ps, collect kind o.skipFailures (input.selected (s.table input.table)) = .ok ps) ∧
      ∃ ps, collect kind o.skipFailures (method.selected (s.table method.table)) = .ok ps)) :
    (run A kind s input method result o answer).store = s := by
  rcases run_forms A kind s input method result o answer with
    ⟨e, hout, -⟩ | ⟨hw, inputs, methods, hinputs, hmethods, -⟩
  · rw [hout]
  · exact absurd ⟨hw, ⟨inputs, hinputs⟩, methods, hmethods⟩ h

theorem schema_runOverlay (f : Faults) (A : RegionAlgebra) (kind : OverlayKind)
    (input method : View) (o : Options) (answer : Nat → Bool) (hlt : result.table < s.tables.length) :
    let after := ((f.runOverlay s A kind input method result o answer).store.table result.table).schema
    (Defines f kind o s input method result → after = (prepare kind o
      (s.table input.table).schema.fields (s.table method.table).schema.fields
        (s.table result.table)).schema) ∧
      (¬Defines f kind o s input method result → after = (s.table result.table).schema) := by
  intro after
  cases hfault : f.overlay with
  | some e =>
    have hstore : (f.runOverlay s A kind input method result o answer).store = s := by
      rw [Faults.runOverlay, hfault]
    refine ⟨fun h => ?_, fun _ => by rw [← hstore]⟩
    rw [h.unfailing] at hfault
    cases hfault
  | none =>
    have hrun : f.runOverlay s A kind input method result o answer =
        run A kind s input method result o answer := by
      rw [Faults.runOverlay, hfault]
    by_cases h : result.writable = true ∧
        (∃ ps, collect kind o.skipFailures (input.selected (s.table input.table)) = .ok ps) ∧
        ∃ ps, collect kind o.skipFailures (method.selected (s.table method.table)) = .ok ps
    · obtain ⟨hw, ⟨inputs, hinputs⟩, methods, hmethods⟩ := h
      have hafter := schema_run_of_collect A answer hlt hw hinputs hmethods
      rw [← hrun] at hafter
      refine ⟨fun _ => hafter, fun h => ?_⟩
      by_contra hne
      exact h ⟨hfault, hw, ⟨_, hinputs⟩, ⟨_, hmethods⟩, fun heq => hne (hafter.trans heq)⟩
    · have hstore := store_run_of_not_collect A answer h
      rw [← hrun] at hstore
      exact ⟨fun hd => absurd ⟨hd.writable, hd.inputs, hd.methods⟩ h, fun _ => by rw [← hstore]⟩

end Overlay

/-! ### The layer of the result -/

namespace Layer

variable {f : Faults} {s : Store} {l : Layer} {o : OpenLayer}

theorem current_refreshSchema (ho : l.state = some o) : ∃ o',
    (l.refreshSchema f s).1.state = some o' ∧ o'.view = o.view ∧ o'.Current s := by
  have hdefined := f.defined_inspect s o.view l.reading.unnamedGeometry
  rw [refreshSchema, ho]
  exact ⟨_, rfl, rfl, hdefined, _, Schema.names_of_defined hdefined _⟩

/-- The result of an overlay reads its schema again only after success. -/
theorem overlay_result (f : Faults) (A : RegionAlgebra) (kind : OverlayKind) (s : Store)
    {input method result : Layer} {i m r : OpenLayer} (hi : input.state = some i)
    (hm : method.state = some m) (hr : result.state = some r) (o : Overlay.Options)
    (answer : Nat → Bool) :
    let out := overlay f A kind s input method result o answer
    out.store = (f.runOverlay s A kind i.view m.view r.view o answer).store ∧
      ∃ view, view.table = r.view.table ∧
        (out.value = .ok () ∧ out.result =
            ((result.withState { r with view, scan := .idle }).refreshSchema f out.store).1 ∨
          out.value ≠ .ok () ∧ out.result = result.withState { r with view, scan := .idle }) := by
  obtain ⟨-, ⟨e, he⟩, -⟩ :=
    f.runOverlay_spec (q := False) s A kind i.view m.view r.view o answer
  unfold overlay
  simp only [hi, hm, hr]
  generalize f.runOverlay s A kind i.view m.view r.view o answer = out at he ⊢
  have htable : out.result.rewind.table = r.view.table := by
    rw [he]
    rfl
  obtain ⟨_ | _, _, _, _, _⟩ := out
  · exact ⟨rfl, _, htable, .inr ⟨nofun, rfl⟩⟩
  · exact ⟨rfl, _, htable, .inl ⟨rfl, rfl⟩⟩

theorem create_fails {row : Row} (ho : l.state = some o)
    (h : ∀ r, l.encode f s o row = .ok r → (s.table o.view.table).insert r = .error .shape) :
    ∃ e, (l.create f s row).1 = .error e := by
  unfold create
  simp only [ho]
  cases hr : l.encode f s o row with
  | error e => exact ⟨e, rfl⟩
  | ok r =>
    have hrefused : ∃ e v, o.view.create (s.table o.view.table) r =
        (.error e, v, s.table o.view.table) := by
      rw [View.create, View.write]
      simp only [h r hr]
      split
      · exact ⟨_, _, rfl⟩
      · split <;> exact ⟨_, _, rfl⟩
    obtain ⟨e, v, hrefused⟩ := hrefused
    simp only [store, Faults.write]
    cases f.create with
    | some e => exact ⟨_, rfl⟩
    | none =>
      simp only [Store.write, hrefused]
      exact ⟨_, rfl⟩

end Layer

namespace Workspace

/-- The result layer of an overlay that knew its table before knows it afterwards, unless the overlay
fails and gives the table definitions. Then the layer is left with the definitions of before, so that no
row can be created through it. -/
theorem result_current_after_overlay (f : Faults) (A : RegionAlgebra) (ops : List Operation) :
    let w := empty.run f A ops
    ∀ (result : String) (li lm lr : Layer) (i m r : OpenLayer), w.layer? result = some lr →
      li.state = some i → lm.state = some m → lr.state = some r → r.Current w.store →
      ∀ (kind : OverlayKind) (o : Overlay.Options) (answer : Nat → Bool),
        let out := Layer.overlay f A kind w.store li lm lr o answer
        let defines := Overlay.Defines f kind o w.store i.view m.view r.view
        ∃ r', out.result.state = some r' ∧ r'.view.table = r.view.table ∧
          (out.value = .ok () ∨ ¬defines → out.result.UpToDate f out.store r') ∧
          (out.value ≠ .ok () ∧ defines →
            r'.schema = r.schema ∧ r'.fieldNames = r.fieldNames ∧
              (out.store.table r.view.table).schema = (Overlay.prepare kind o
                (w.store.table i.view.table).schema.fields (w.store.table m.view.table).schema.fields
                (w.store.table r.view.table)).schema ∧
              out.result.Outdated f out.store r' ∧
              ∀ row, ∃ e, (out.result.create f out.store row).1 = .error e) := by
  have hsound : (empty.run f A ops).Sound := sound_empty.run ops
  generalize empty.run f A ops = w at hsound ⊢
  intro w result li lm lr i m r hlr hi hm hr hcur kind o answer out defines
  have hlt := (hsound.held r.view (.inr ⟨result, lr, r, hlr, hr, rfl⟩)).lt
  obtain ⟨hstore, view, hview, hresult⟩ := Layer.overlay_result f A kind w.store hi hm hr o answer
  obtain ⟨hdefines, hkeeps⟩ := Overlay.schema_runOverlay f A kind i.view m.view o answer hlt
  rw [← hstore] at hdefines hkeeps
  rcases hresult with ⟨hok, hresult⟩ | ⟨hfail, hresult⟩
  · obtain ⟨r', hr', hview', hcur'⟩ := Layer.current_refreshSchema (f := f) (s := out.store)
      (l := lr.withState { r with view, scan := .idle }) rfl
    rw [← hresult] at hr'
    exact ⟨r', hr', by rw [hview', hview], fun _ => hcur'.upToDate f _, fun h => absurd hok h.1⟩
  · let r' : OpenLayer := { r with view, scan := .idle }
    have htable : out.store.table r'.view.table = out.store.table r.view.table :=
      congrArg out.store.table hview
    refine ⟨r', by rw [hresult]; rfl, hview, fun h => ?_, fun h => ?_⟩
    · have hcur' : r'.Current out.store :=
        hcur.congr rfl rfl (by rw [htable]; exact hkeeps (h.resolve_left hfail))
      exact hcur'.upToDate f _
    · have hnew := hdefines h.2
      have hgrows := Overlay.grows_prepare kind o (w.store.table i.view.table).schema.fields
        (w.store.table m.view.table).schema.fields (w.store.table r.view.table)
      rw [← hnew] at hgrows
      have hne := h.2.grows
      rw [← hnew] at hne
      have hknown : r'.schema.defined = (w.store.table r.view.table).schema.defined := hcur.schema
      have houtdated : out.result.Outdated f out.store r' :=
        Layer.outdated_of_grows htable hknown hgrows hne f
      exact ⟨rfl, rfl, hnew, houtdated, fun row =>
        Layer.create_fails (by rw [hresult]; rfl) fun x hx => houtdated.insert row x hx⟩

theorem exists_of_isOk {α : Type} {x : Except Error α} (h : x.isOk = true) : ∃ a, x = .ok a := by
  cases x with
  | ok a => exact ⟨a, rfl⟩
  | error e => cases h

def cancelledClip (s : Store) (input method result : Layer) : Layer.OverlayOutcome :=
  Layer.overlay .none .exact .clip s input method result (.ofList .empty) fun _ => false

theorem result_outdated_after_cancelled_clip :
    let w := empty.run .none .exact (twoSquares "b")
    ∃ li lm lr, w.layer? "i" = some li ∧ w.layer? "m" = some lm ∧ w.layer? "r" = some lr ∧
      let out := cancelledClip w.store li lm lr
      ∃ r', out.result.state = some r' ∧ out.result.Outdated .none out.store r' ∧
        ∀ row, ∃ e, (out.result.create .none out.store row).1 = .error e := by
  intro w
  have hopen : (w.openLayer? "i").any (fun i => (w.openLayer? "m").any fun m => (w.openLayer? "r").any
      fun r => i.2.view.table = 0 && m.2.view.table = 1 && r.2.view.table = 2 && r.2.view.writable &&
        r.2.schema.defined = (w.store.table 2).schema.defined &&
        r.2.fieldNames = (w.store.table 2).schema.names "geometry" &&
        (Overlay.collect .clip false (i.2.view.selected (w.store.table 0))).isOk &&
        (Overlay.collect .clip false (m.2.view.selected (w.store.table 1))).isOk &&
        !(cancelledClip w.store i.1 m.1 r.1).value.isOk) = true := by decide +kernel
  have hgrows : (Overlay.prepare .clip (.ofList .empty) (w.store.table 0).schema.fields
      (w.store.table 1).schema.fields (w.store.table 2)).schema ≠ (w.store.table 2).schema := by
    decide +kernel
  obtain ⟨li, i, hi, hio, hopen⟩ := exists_of_openLayer?_any hopen
  obtain ⟨lm, m, hm, hmo, hopen⟩ := exists_of_openLayer?_any hopen
  obtain ⟨lr, r, hr, hro, hfacts⟩ := exists_of_openLayer?_any hopen
  simp only [Bool.and_eq_true, decide_eq_true_eq, Bool.not_eq_true'] at hfacts
  obtain ⟨⟨⟨⟨⟨⟨⟨⟨hti, htm⟩, htr⟩, hwritable⟩, hschema⟩, hnames⟩, hinputs⟩, hmethods⟩, hfail⟩ := hfacts
  have hdefines : Overlay.Defines .none .clip (.ofList .empty) w.store i.view m.view r.view := by
    constructor
    · rfl
    · exact hwritable
    · rw [hti]; exact exists_of_isOk hinputs
    · rw [htm]; exact exists_of_isOk hmethods
    · rw [hti, htm, htr]; exact hgrows
  have hfailed : (cancelledClip w.store li lm lr).value ≠ .ok () := fun h => by
    rw [h] at hfail
    cases hfail
  obtain ⟨r', hr', -, -, houtdated⟩ := result_current_after_overlay .none .exact (twoSquares "b") "r"
    li lm lr i m r hr hio hmo hro ⟨by rw [htr]; exact hschema, _, by rw [htr]; exact hnames⟩ .clip
    (.ofList .empty) fun _ => false
  obtain ⟨-, -, -, houtdated, hcreate⟩ := houtdated ⟨hfailed, hdefines⟩
  exact ⟨li, lm, lr, hi, hm, hr, r', hr', houtdated, hcreate⟩

/-- After the cancelled overlay the layer still tells that there are no fields, and an empty row that it
accepts is refused for its shape. -/
theorem cancelled_overlay_outdates_result :
    let told (w : Workspace) := (w.openLayer? "r").map fun e =>
      (e.2.schema.names "geometry", e.2.fieldNames,
        (w.store.table e.2.view.table).schema.names "geometry")
    let w := empty.run .none .exact (twoSquares "b")
    let w' := w.step .none .exact (.overlay .clip "i" "m" "r" (.ofList .empty) fun _ => false)
    told w = some ([], [], []) ∧ told w' = some ([], [], ["a", "geometry"]) ∧
      (w'.openLayer? "r").map (fun e => ((e.1.encode .none w'.store e.2 ⟨[]⟩).isOk,
        match (e.1.create .none w'.store ⟨[]⟩).1 with
        | .error e => some e
        | .ok _ => none)) = some (true,
          some (.write "OGR_L_CreateFeature" "feature does not match the layer definition")) := by
  decide +kernel

end Workspace

end FeatureLayer
