import FeatureLayer.Proofs.Layer.Deeds

namespace FeatureLayer

namespace Layer

variable (f : Faults) (s : Store) (l : Layer)

theorem dataSource_close : (l.close s).1.dataSource = l.dataSource := by
  unfold close
  split <;> rfl

theorem dataSource_reopen (access : Access) :
    (l.reopen f s access).2.2.1.dataSource = l.dataSource := by
  have hclose := dataSource_close s l
  unfold reopen
  generalize l.close s = closed at hclose ⊢
  simp only
  split <;> exact hclose

theorem dataSource_setSpatial (filter : Option SpatialFilter) :
    (l.setSpatial filter).2.dataSource = l.dataSource := by
  unfold setSpatial
  split <;> rfl

theorem dataSource_setIgnored (names : List String) :
    (l.setIgnored f s names).2.dataSource = l.dataSource := by
  unfold setIgnored
  repeat' split
  all_goals first
    | rfl
    | (simp only; repeat' split) <;> rfl

theorem dataSource_fetch (size : FetchSize) : (l.fetch f s size).2.2.dataSource = l.dataSource := by
  cases ho : l.state with
  | none =>
    unfold fetch
    rw [ho]
  | some o =>
    have hfrom : ∀ view expected room limit,
        (l.fetchFrom f s o view expected room limit).2.2.dataSource = l.dataSource := by
      intro view expected room limit
      unfold fetchFrom
      simp only
      repeat' split
      all_goals rfl
    cases size with
    | rows n =>
      rw [fetch_rows f s ho]
      exact hfrom _ _ _ _
    | all =>
      rw [fetch_all f s ho]
      exact hfrom _ _ _ _

theorem dataSource_lookup (fid : Int) : (l.lookup f s fid).2.2.dataSource = l.dataSource := by
  have hrestore : ∀ l : Layer, (l.restoreFilters f s).2.dataSource = l.dataSource := by
    intro l
    unfold restoreFilters
    split
    · rfl
    · simp only
      split <;> rfl
  unfold lookup
  split
  · rfl
  · simp only
    split
    · exact hrestore _
    · exact (hrestore _).trans (dataSource_fetch f s _ _)

theorem dataSource_store (o : OpenLayer) (fault : Option Error) (method : String)
    (act : FeatureTable → View → Except Error Int × View × FeatureTable) :
    (l.store s o fault method act).2.1.dataSource = l.dataSource := by
  unfold store
  split <;> rfl

theorem dataSource_refreshSchema : (l.refreshSchema f s).1.dataSource = l.dataSource := by
  unfold refreshSchema
  split <;> rfl

theorem dataSource_overlay (A : RegionAlgebra) (kind : OverlayKind) (input method result : Layer)
    (o : Overlay.Options) (answer : Nat → Bool) :
    let out := overlay f A kind s input method result o answer
    out.input.dataSource = input.dataSource ∧ out.method.dataSource = method.dataSource ∧
      out.result.dataSource = result.dataSource := by
  unfold overlay
  split
  · simp only
    split
    · exact ⟨rfl, rfl, dataSource_refreshSchema f _ _⟩
    · exact ⟨rfl, rfl, rfl⟩
  · exact ⟨rfl, rfl, rfl⟩

theorem dataSource_ask (r : LayerRequest) : (l.ask f s r).layer.dataSource = l.dataSource := by
  have hspatial : ∀ l' : Layer, (l' = l ∨ ∃ g, l' = (l.setSpatial (some g)).2) →
      l'.dataSource = l.dataSource := by
    rintro l' (rfl | ⟨g, rfl⟩)
    · rfl
    · exact dataSource_setSpatial l _
  cases r with
  | configure | setInterrupt | setMetadata | setMetadataItem | sync => rfl
  | reopen access => exact dataSource_reopen f s l access
  | close => exact dataSource_close s l
  | setSpatial g => exact dataSource_setSpatial l _
  | setSpatialWkt text => exact hspatial _ (setSpatialWkt_cases f l text)
  | setSpatialGeometry g => exact hspatial _ (setSpatialGeometry_cases f l g)
  | setSpatialRect e => exact hspatial _ (setSpatialRect_cases l e)
  | setIgnored names => exact dataSource_setIgnored f s l names
  | fetch size => exact dataSource_fetch f s l size
  | lookup fid => exact dataSource_lookup f s l fid
  | extent | setPredicate | setSelected | reset | next | seek | create | replace | upsert | delete
  | begin | commit | rollback =>
    simp only [ask, extent, setPredicate, setSelected, reset, next, seek, create, replace, upsert,
      delete, begin, commit, rollback, finish]
    repeat' split
    all_goals first
      | rfl
      | exact dataSource_setIgnored f s l _
      | exact dataSource_store s l _ _ _ _

end Layer

namespace Store

variable (s : Store) (c : Connection)

theorem registry_query (text : String) (spatial : Option Geometry) (dialect : Option String) :
    (s.query c text spatial dialect).2.2.registry = s.registry := by
  rcases s.query_cases c text spatial dialect with ⟨e, c', h, -⟩ | ⟨i, -, v, h⟩
  · rw [h]
  · rw [h]
    rfl

theorem registry_restore (es : List (Nat × FidMap Record × Int)) :
    (s.restore es).registry = s.registry := by
  induction es generalizing s with
  | nil => rfl
  | cons e es ih => exact ih _

theorem Turn.registry {s s' : Store} {d : Nat} {k : Control} (h : s.Turn d k s') :
    s'.registry = s.registry := by
  cases h with
  | begin | commit => rfl
  | rollback => exact registry_restore _ _

end Store

namespace Layer

variable (f : Faults) (s : Store) (l : Layer)

theorem registry_close : (l.close s).2.registry = s.registry := by
  unfold close
  split
  · rfl
  · split <;> rfl

theorem registry_ask (r : LayerRequest) : (l.ask f s r).store.registry = s.registry := by
  have hdeed := ask_deed f s l r
  generalize (l.ask f s r).store = s' at hdeed ⊢
  cases hdeed with
  | nothing | labels | writes => rfl
  | closes => exact registry_close s l
  | queries _ c text spatial dialect =>
    exact ((l.close s).2.registry_query c text spatial dialect).trans (registry_close s l)
  | turns _ _ ht => exact ht.registry

theorem registry_overlay (A : RegionAlgebra) (kind : OverlayKind) (input method result : Layer)
    (o : Overlay.Options) (answer : Nat → Bool) :
    (overlay f A kind s input method result o answer).store.registry = s.registry := by
  rcases overlay_store f A kind s input method result o answer with h | ⟨i, m, r, -, -, -, h⟩
  · rw [h]
  · obtain ⟨t, ht⟩ := Overlay.run_store A kind s i.view m.view r.view o answer
    rw [h, ht]
    rfl

theorem source_openView (c : Connection) (spatial : Option Geometry) :
    (l.openView f s c spatial).2.1.source = c.source := by
  unfold openView
  split
  · split
    · rfl
    · split <;> rfl
  · rename_i text _
    have hquery : (f.runQuery s c text spatial l.options.dialect).2.1.source = c.source := by
      rcases f.runQuery_cases s c text spatial l.options.dialect with ⟨h, -⟩ | ⟨h, -⟩
      · rw [h]
      · rw [h]
        rcases s.query_cases c text spatial l.options.dialect with ⟨e, c', h, hc⟩ | ⟨i, -, v, h⟩
        · rw [h]
          exact hc
        · rw [h]
    split
    all_goals
      rename_i heq
      rw [heq] at hquery
      exact hquery

variable {l s f} {access : Access} {o : OpenLayer} {ws : List Warning} {s' : Store}

theorem openState_connection (h : l.openState f s access = (.ok o, ws, s')) :
    s.find? l.dataSource = some o.connection.source := by
  unfold openState at h
  split at h
  · cases h
  · cases h
  · rename_i c hc
    split at h
    · cases h
    · rename_i spatial _
      have hsource := source_openView f s l c spatial
      split at h
      · cases h
      · rename_i heq
        cases h
        rw [heq] at hsource
        rw [(Faults.connect_ok hc).1]
        exact congrArg some hsource.symm

theorem reopen_connection (h : (l.reopen f s access).2.2.1.state = some o) :
    s.find? l.dataSource = some o.connection.source := by
  have hname := dataSource_close s l
  have hregistry := registry_close s l
  obtain ⟨hstate, -⟩ := close_state s l
  unfold reopen at h
  generalize l.close s = closed at h hname hregistry hstate
  obtain ⟨l₁, s₁⟩ := closed
  simp only at h hname hregistry hstate
  split at h
  next heq =>
    obtain rfl := Option.some.inj h
    have hopen := openState_connection heq
    simp only [Store.find?, hname, hregistry] at hopen ⊢
    exact hopen
  next => cases hstate.symm.trans h

structure On (l : Layer) (name : String) (d : Nat) : Prop where
  named : l.dataSource = name
  source : ∀ o, l.state = some o → o.connection.source = d

variable {name : String} {d : Nat}

theorem On.ask (h : l.On name d) (hname : s.find? name = some d) (r : LayerRequest) :
    (l.ask f s r).layer.On name d := by
  refine ⟨(dataSource_ask f s l r).trans h.named, fun o ho => ?_⟩
  cases hr : r.closes with
  | false =>
    obtain ⟨o₀, ho₀, hm⟩ := (ask_moves f s l hr).state o ho
    exact hm.source.trans (h.source o₀ ho₀)
  | true =>
    cases r with
    | reopen access =>
      have hfound := reopen_connection (l := l) (f := f) (s := s) ho
      rw [h.named, hname] at hfound
      exact (Option.some.inj hfound).symm
    | close => cases (close_state s l).1.symm.trans ho
    | _ => cases hr

theorem On.keeps {l' : Layer} (h : l.On name d) (hk : l.Keeps false l')
    (hn : l'.dataSource = l.dataSource) : l'.On name d where
  named := hn.trans h.named
  source o ho := by
    obtain ⟨o₀, ho₀, hk⟩ := hk.state o ho
    exact hk.source.trans (h.source o₀ ho₀)

variable (f) (s) (name) (d) in
theorem on_overlay (A : RegionAlgebra) (kind : OverlayKind) (input method result : Layer)
    (o : Overlay.Options) (answer : Nat → Bool) :
    let out := overlay f A kind s input method result o answer
    (input.On name d → out.input.On name d) ∧ (method.On name d → out.method.On name d) ∧
      (result.On name d → out.result.On name d) := by
  intro out
  obtain ⟨hni, hnm, hnr⟩ := dataSource_overlay f s A kind input method result o answer
  obtain ⟨hi, hm, hr, -⟩ := overlay_keeps (q := False) f s A kind input method result o answer
  refine ⟨fun h => h.keeps hi hni, fun h => h.keeps hm hnm, fun h => ?_⟩
  rcases hr with hr | ⟨l₁, hk, -, hout⟩
  · exact h.keeps hr hnr
  · have hname : l₁.dataSource = result.dataSource := by
      rw [← hnr, hout, dataSource_refreshSchema]
    refine ⟨hnr.trans h.named, fun o ho => ?_⟩
    obtain ⟨o₁, _, ho₁, rfl⟩ := refreshSchema_state f _ (hout ▸ ho)
    exact (h.keeps hk hname).source o₁ ho₁

end Layer

end FeatureLayer
