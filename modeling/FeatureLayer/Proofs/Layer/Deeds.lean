import FeatureLayer.Proofs.Layer.Typing
/-!
What a request to a layer does to the store, said once for all requests: it writes to the table of the
layer if the layer may, labels the table, closes and opens the layer, or takes a turn in a transaction.
-/

namespace FeatureLayer

namespace Store

variable (s : Store) {i : Nat}

theorem table_query (hi : i < s.tables.length) (c : Connection) (text : String)
    (spatial : Option Geometry) (dialect : Option String) :
    (s.query c text spatial dialect).2.2.table i = s.table i := by
  rcases s.query_cases c text spatial dialect with ⟨e, c', h, -⟩ | ⟨j, -, v, h⟩
  · rw [h]
  · rw [h]
    exact (s.table_addTable _ i).trans (if_neg (by omega))

theorem Turn.table_eq {s s' : Store} {d : Nat} {k : Control} (h : s.Turn d k s')
    (hi : i ∉ (s.source d).tables) : s'.table i = s.table i := by
  cases h with
  | begin | commit => rfl
  | @rollback before =>
    rcases table_restore (s.cut d before.contents.length)
      (((s.source d).tables.take before.contents.length).zip before.contents) i with h | ⟨e, he, rfl, -⟩
    · exact h
    · exact absurd (List.mem_of_mem_take (List.of_mem_zip (a := e.1) (b := e.2) he).1) hi

end Store

namespace Layer

/-- What becomes of the store by a request to a layer. -/
inductive Deed (s : Store) (l : Layer) (r : LayerRequest) : Store → Prop
  | nothing : Deed s l r s
  | labels {o : OpenLayer} (ho : l.state = some o) (domain : String) (items : OptionList) :
      Deed s l r (s.change o.view (·.setMetadata domain items))
  | writes {o : OpenLayer} (ho : l.state = some o) (hw : o.view.writable = true)
      (records : FidMap Record) (nextFid : Int) :
      Deed s l r (s.setTable o.view.table ((s.table o.view.table).holding records nextFid))
  | closes (hr : r.closes = true) : Deed s l r (l.close s).2
  /-- The layer is closed and opened again, which runs its query. -/
  | queries (hr : r.closes = true) (c : Connection) (text : String) (spatial : Option Geometry)
      (dialect : Option String) : Deed s l r ((l.close s).2.query c text spatial dialect).2.2
  | turns {o : OpenLayer} {k : Store.Control} {s' : Store} (ho : l.state = some o)
      (hk : r.control? = some k) (h : s.Turn o.connection.source k s') : Deed s l r s'

variable (f : Faults) (s : Store) (l : Layer) {r : LayerRequest} {o : OpenLayer}

theorem deed_reopen (access : Access) :
    l.Deed s (.reopen access) (l.reopen f s access).2.2.2 := by
  have hdeed : ∀ s', s' = (l.close s).2 ∨ (∃ c text spatial dialect,
      s' = ((l.close s).2.query c text spatial dialect).2.2) → l.Deed s (.reopen access) s' := by
    rintro s' (rfl | ⟨c, text, spatial, dialect, rfl⟩)
    · exact .closes rfl
    · exact .queries rfl c text spatial dialect
  unfold reopen
  have hopen := openState_store f (l.close s).2
    { (l.close s).1 with options := { (l.close s).1.options with access } } access
  refine hdeed _ ?_
  simp only
  split
  all_goals
    rename_i heq
    rw [heq] at hopen
    exact hopen.imp_right fun ⟨c, text, spatial, _, h⟩ => ⟨c, text, spatial, _, h⟩

variable {l} in
theorem deed_write {act : FeatureTable → View → Except Error Int × View × FeatureTable}
    (hact : View.Writes act) (ho : l.state = some o) (fault : Option Error) :
    l.Deed s r (Faults.write s fault o.view act).2.2 := by
  unfold Faults.write
  split
  · exact .nothing
  · show l.Deed s r (s.setTable o.view.table (act (s.table o.view.table) o.view).2.2)
    cases hw : o.view.writable with
    | false =>
      rw [hact.refused _ _ hw, Store.setTable_table]
      exact .nothing
    | true =>
      obtain ⟨m, n, h⟩ := hact.holds (s.table o.view.table) o.view
      rw [h]
      exact .writes ho hw m n

variable {l} in
theorem deed_store {act : FeatureTable → View → Except Error Int × View × FeatureTable}
    (hact : View.Writes act) (ho : l.state = some o) (fault : Option Error) (method : String) :
    l.Deed s r (l.store s o fault method act).2.2 := by
  have hwrite := deed_write (r := r) s hact ho fault
  unfold store
  split
  all_goals
    rename_i heq
    rw [heq] at hwrite
    exact hwrite

theorem deed_setMetadata (items : OptionList) (domain : String) :
    l.Deed s r (l.setMetadata f s items domain).2 := by
  unfold setMetadata
  split
  · exact .nothing
  next ho =>
    split
    · exact .nothing
    · exact .labels ho domain items

theorem ask_deed (r : LayerRequest) : l.Deed s r (l.ask f s r).store := by
  cases hc : r.control? with
  | some k =>
    rcases l.ask_control f s hc with ⟨-, o, ho, ht⟩ | ⟨-, hs, -⟩
    · exact .turns ho hc ht
    · rw [hs]
      exact .nothing
  | none =>
    cases r with
    | begin | commit | rollback => cases hc
    | reopen access => exact deed_reopen f s l access
    | close => exact .closes rfl
    | configure | setInterrupt | extent | setPredicate | setSpatial | setSpatialWkt
    | setSpatialGeometry | setSpatialRect | setIgnored | setSelected | reset | next | fetch | seek
    | lookup | sync => exact .nothing
    | setMetadata items domain => exact deed_setMetadata f s l items domain
    | setMetadataItem key value domain =>
      simp only [ask, setMetadataItem]
      repeat' split
      all_goals first
        | exact .nothing
        | exact deed_setMetadata f s l _ _
    | create | replace | upsert =>
      simp only [ask, create, replace, upsert]
      cases ho : l.state with
      | none => exact .nothing
      | some o =>
        simp only
        repeat' split
        all_goals first
          | exact .nothing
          | exact deed_store s (View.writes_create _) ho _ _
          | exact deed_store s (View.writes_replace _) ho _ _
          | exact deed_store s (View.writes_upsert _) ho _ _
    | delete fid =>
      simp only [ask, delete]
      cases ho : l.state with
      | none => exact .nothing
      | some o =>
        have hwrite := deed_write (r := .delete fid) s (View.writes_delete fid) ho f.delete
        simp only
        split
        · exact .nothing
        · split
          all_goals
            rename_i heq
            rw [heq] at hwrite
            exact hwrite

variable {s l} {i : Nat} {s' : Store}

theorem table_close : (l.close s).2.table i = s.table i := by
  rw [Store.table, tables_close]
  rfl

theorem table_query_close (hi : i < s.tables.length) (c : Connection) (text : String)
    (spatial : Option Geometry) (dialect : Option String) :
    ((l.close s).2.query c text spatial dialect).2.2.table i = s.table i := by
  have hi' : i < (l.close s).2.tables.length := by rwa [tables_close]
  exact ((l.close s).2.table_query hi' c text spatial dialect).trans table_close

/-- Nothing becomes of a table that the layer is not on. -/
theorem Deed.table_eq (h : l.Deed s r s') (hi : i < s.tables.length)
    (hlisted : ∀ d, i ∉ (s.source d).tables) (ho : ∀ o, l.state = some o → o.view.table ≠ i) :
    s'.table i = s.table i := by
  cases h with
  | nothing => rfl
  | labels hs | writes hs => exact (s.table_setTable _ _ i).trans (if_neg fun h => ho _ hs h.1)
  | closes => exact table_close
  | queries _ c text spatial dialect => exact table_query_close hi c text spatial dialect
  | turns _ _ ht => exact ht.table_eq (hlisted _)

theorem table_openOn {f : Faults} {s : Store} {dataSource : String} {source : LayerSource}
    {options : OpenOptions} {l : Except Error Layer} {ws : List Warning} {s' : Store} {i : Nat}
    (h : openOn f s dataSource source options = (l, ws, s')) (hi : i < s.tables.length) :
    s'.table i = s.table i := by
  have hs : (openOn f s dataSource source options).2.2 = s' := by rw [h]
  rw [← hs]
  rcases openState_store f s ⟨dataSource, source, options, .default, none, none⟩ options.access with
    h | ⟨c, text, spatial, -, h⟩
  · exact congrArg (·.table i) h
  · exact (congrArg (·.table i) h).trans (s.table_query hi c text spatial _)

end Layer

def LayerRequest.writes : LayerRequest → Bool
  | .create _ | .replace _ | .upsert _ | .delete _ => true
  | _ => false

namespace Layer

variable {s : Store} {l : Layer} {o : OpenLayer}

theorem store_refused (hv : o.view.writable = false) (method : String)
    {capability : LayerCapability} {m : String}
    {act : FeatureTable → Except FeatureTable.Rejection (Int × FeatureTable)} :
    ∃ e l', l.store s o none method (fun t v => v.write t capability m act) = (.error e, l', s) := by
  obtain ⟨e, v', hwrite⟩ := View.write_refused hv (s.table o.view.table) capability m act
  unfold store Faults.write Store.write
  simp only [hwrite, Store.setTable_table]
  exact ⟨_, _, rfl⟩

theorem ask_refused (hv : ∀ o, l.state = some o → o.view.writable = false) {r : LayerRequest}
    (hr : r.writes = true) :
    ((∃ e, (l.ask .none s r).value = .error e) ∨ (l.ask .none s r).value = .ok (.flag false)) ∧
      (l.ask .none s r).store = s := by
  have hrefused : ∀ {out : Except Error Int × Layer × Store}, (∃ e l', out = (.error e, l', s)) →
      (∃ e, out.1.map Reply.fid = .error e) ∧ out.2.2 = s := by
    rintro _ ⟨e, l', rfl⟩
    exact ⟨⟨e, rfl⟩, rfl⟩
  cases r with
  | create row | replace row | upsert row =>
    refine (hrefused ?_).imp_left .inl
    cases ho : l.state with
    | none => exact ⟨_, _, rfl⟩
    | some o =>
      simp only
      repeat' split
      all_goals first
        | exact ⟨_, _, rfl⟩
        | exact store_refused (hv o ho) _
  | delete fid =>
    refine (?_ : (l.delete .none s fid).1 = false ∧ (l.delete .none s fid).2.2.2 = s).imp_left
      fun hflag => .inr (congrArg (fun b => Except.ok (Reply.flag b)) hflag)
    unfold delete
    cases ho : l.state with
    | none => exact ⟨rfl, rfl⟩
    | some o =>
      simp only
      split
      · exact ⟨rfl, rfl⟩
      · obtain ⟨e, v', hwrite⟩ := View.write_refused (hv o ho) (s.table o.view.table) .deleteFeature
          "OGR_L_DeleteFeature" (·.delete fid)
        simp only [Faults.none, Faults.write, Store.write, View.delete, hwrite, Store.setTable_table]
        exact ⟨trivial, trivial⟩
  | _ => cases hr

theorem overlay_refused {result : Layer} (hv : ∀ o, result.state = some o → o.view.writable = false)
    (A : RegionAlgebra) (kind : OverlayKind) (s : Store) (input method : Layer) (o : Overlay.Options)
    (answer : Nat → Bool) :
    (∃ e, (overlay .none A kind s input method result o answer).value = .error e) ∧
      (overlay .none A kind s input method result o answer).store = s := by
  unfold overlay
  split
  next i m r _ _ hr =>
    simp only [Faults.none, Faults.runOverlay, Overlay.run_of_read_only (hv r hr)]
    exact ⟨⟨_, rfl⟩, trivial⟩
  next => exact ⟨⟨_, rfl⟩, rfl⟩

end Layer

end FeatureLayer
