import FeatureLayer.Proofs.Layer.Ignoring
import FeatureLayer.Proofs.Overlay

namespace FeatureLayer

def ViewRequest.stores : ViewRequest → Bool
  | .create _ | .replace _ | .upsert _ => true
  | _ => false

namespace Store

variable {s s' : Store} {i : Nat}

theorem StaysTyped.change {v : View} {f : FeatureTable → FeatureTable}
    (h : (s.table v.table).StaysTyped (f (s.table v.table))) : s.StaysTyped (s.change v f) i :=
  .setTable fun hi => hi ▸ h

theorem staysTyped_askView (s : Store) (v : View) {r : ViewRequest}
    (hr : v.table = i → r.stores = false) : s.StaysTyped (s.askView v r).2.2 i := by
  have hstores : r.stores = true → v.table ≠ i := by
    intro h hi
    rw [hr hi] at h
    cases h
  cases r with
  | setCapabilities capabilities =>
    exact .change (f := ({ · with capabilities })) (.of_relabel rfl rfl)
  | setReportedCount reportedCount =>
    exact .change (f := ({ · with reportedCount })) (.of_relabel rfl rfl)
  | setFidColumn fidColumn => exact .change (f := ({ · with fidColumn })) (.of_relabel rfl rfl)
  | create r => exact .setTable fun h => absurd h (hstores rfl)
  | replace r => exact .setTable fun h => absurd h (hstores rfl)
  | upsert r => exact .setTable fun h => absurd h (hstores rfl)
  | delete fid => exact .setTable fun h => h ▸ View.staysTyped_delete _ v fid
  | extent | setPredicate | setSpatial | ignore | rewind | next | seek => exact .refl s i

theorem staysTyped_query (hs : s.Sound) (c : Connection) (text : String)
    (spatial : Option Geometry) (dialect : Option String) :
    s.StaysTyped (s.query c text spatial dialect).2.2 i := by
  rcases s.query_cases c text spatial dialect with ⟨e, c', h, -⟩ | ⟨j, -, v, h⟩
  · rw [h]
    exact .refl s i
  · rw [h]
    have hadd : s.StaysTyped (s.addTable (resultTable (s.table j) v)).2 i := by
      refine .addTable fun hi => .inr ⟨fun d hd => ?_, j, v, rfl⟩
      have := hs.listed d i hd
      omega
    exact hadd.congr rfl fun d => (sources_setSource_of_eq (i := c.source)
      (x := { s.source c.source with resultSets := (s.source c.source).resultSets + 1 }) rfl rfl d).1

theorem listed_query (s : Store) (c : Connection) (text : String) (spatial : Option Geometry)
    (dialect : Option String) (d : Nat) :
    ((s.query c text spatial dialect).2.2.source d).tables = (s.source d).tables := by
  rcases s.query_cases c text spatial dialect with ⟨e, c', h, -⟩ | ⟨j, -, v, h⟩
  · rw [h]
  · rw [h]
    refine apply_source_setSource (·.tables) _ ?_ d
    rfl

end Store

namespace Layer

variable (f : Faults) {s : Store} (l : Layer) {o : OpenLayer} {i : Nat}

theorem listed_close (s : Store) (d : Nat) :
    ((l.close s).2.source d).tables = (s.source d).tables := by
  unfold close
  split
  · rfl
  next o _ =>
    split
    · refine Store.apply_source_setSource (·.tables) _ ?_ d
      rfl
    · rfl

theorem staysTyped_openState (hs : s.Sound) (access : Access) :
    s.StaysTyped (l.openState f s access).2.2 i := by
  rcases openState_store f s l access with h | ⟨c, text, spatial, -, h⟩
  · rw [h]
    exact .refl s i
  · rw [h]
    exact Store.staysTyped_query hs c text spatial _

theorem staysTyped_openOn (hs : s.Sound) {dataSource : String} {source : LayerSource}
    {options : OpenOptions} {l : Except Error Layer} {ws : List Warning} {s' : Store}
    (h : openOn f s dataSource source options = (l, ws, s')) : s.StaysTyped s' i := by
  have hs' : (openOn f s dataSource source options).2.2 = s' := by rw [h]
  rw [← hs']
  exact staysTyped_openState f ⟨dataSource, source, options, .default, none, none⟩ hs options.access

theorem staysTyped_reopen (hs : s.Sound) (access : Access) :
    s.StaysTyped (l.reopen f s access).2.2.2 i := by
  unfold reopen
  have hclosed : (l.close s).2.Sound := Store.Works.sound (works_close (q := False) s l) hs
  have htables := tables_close s l
  generalize l.close s = closed at hclosed htables ⊢
  obtain ⟨l₁, s₁⟩ := closed
  simp only at hclosed htables ⊢
  have hopen := (staysTyped_openState (i := i) f
    { l₁ with options := { l₁.options with access } } hclosed access).congr_left htables
  split
  all_goals
    rename_i heq
    rw [heq] at hopen
    exact hopen

def Knows (s : Store) (l : Layer) (i : Nat) : Prop :=
  ∀ o, l.state = some o → o.view.table = i → o.schema.bare = (s.table i).schema.bare ∧ o.Whole

def Fits (s : Store) (l : Layer) (i : Nat) : Prop :=
  ∀ o, l.state = some o → o.view.table = i → o.schema.defined.Grows (s.table i).schema.defined

variable {f l}

theorem Knows.fits (h : l.Knows s i) : l.Fits s i := fun o ho hi =>
  .of_eq (Schema.defined_of_bare (h o ho hi).1).symm

theorem Fits.takes (h : l.Fits s i) (ho : l.state = some o) {row : Row} {r : Record}
    (hr : l.encode f s o row = .ok r) (hi : o.view.table = i) : (s.table i).schema.Takes r.data := by
  have htyped : r.Typed o.schema := Record.typed_of_encode hr
  intro j x d hx hd
  have hj : j < o.schema.fields.length := htyped.length_data ▸ (List.getElem?_eq_some_iff.mp hd).1
  have hy := List.getElem?_eq_getElem hj
  obtain ⟨x', hx', -, hkind⟩ := (h o ho hi).name_field hy
  obtain rfl := Option.some.inj (hx.symm.trans hx')
  exact hkind ▸ htyped.stores j _ d hy hd

theorem staysTyped_write (fault : Option Error) {v : View}
    {act : FeatureTable → View → Except Error Int × View × FeatureTable}
    (h : v.table = i → (s.table i).StaysTyped (act (s.table i) v).2.2) :
    s.StaysTyped (Faults.write s fault v act).2.2 i := by
  unfold Faults.write
  cases fault with
  | some e => exact .refl s i
  | none => exact .setTable fun hi => hi ▸ h hi

theorem staysTyped_store {fault : Option Error} {method : String}
    {act : FeatureTable → View → Except Error Int × View × FeatureTable}
    (h : o.view.table = i → (s.table i).StaysTyped (act (s.table i) o.view).2.2) :
    s.StaysTyped (l.store s o fault method act).2.2 i := by
  have hwrite := staysTyped_write fault h
  unfold store
  generalize Faults.write s fault o.view act = out at hwrite ⊢
  obtain ⟨e | k, v, s'⟩ := out
  · exact hwrite
  · exact hwrite

theorem staysTyped_create (h : l.Fits s i) (row : Row) : s.StaysTyped (l.create f s row).2.2 i := by
  unfold create
  cases ho : l.state with
  | none => exact .refl s i
  | some o =>
    simp only
    cases hr : l.encode f s o row with
    | error e => exact .refl s i
    | ok r =>
      exact staysTyped_store fun hi => View.staysTyped_create (h.takes ho hr hi) o.view

theorem staysTyped_replace (h : l.Fits s i) (row : Row) : s.StaysTyped (l.replace f s row).2.2 i := by
  unfold replace
  cases ho : l.state with
  | none => exact .refl s i
  | some o =>
    simp only
    cases hr : l.encode f s o row with
    | error e => exact .refl s i
    | ok r =>
      simp only
      split
      · exact .refl s i
      · exact staysTyped_store fun hi => View.staysTyped_replace (h.takes ho hr hi) o.view

theorem staysTyped_upsert (h : l.Fits s i) (row : Row) : s.StaysTyped (l.upsert f s row).2.2 i := by
  unfold upsert
  cases ho : l.state with
  | none => exact .refl s i
  | some o =>
    simp only
    split
    · exact .refl s i
    · cases hr : l.encode f s o row with
      | error e => exact .refl s i
      | ok r =>
        exact staysTyped_store fun hi => View.staysTyped_upsert (h.takes ho hr hi) o.view

theorem staysTyped_delete (fid : Int) : s.StaysTyped (l.delete f s fid).2.2.2 i := by
  unfold delete
  cases l.state with
  | none => exact .refl s i
  | some o =>
    simp only
    split
    · exact .refl s i
    · have hwrite : s.StaysTyped (Faults.write s f.delete o.view (fun t v => v.delete t fid)).2.2 i :=
        staysTyped_write f.delete fun hi => View.staysTyped_delete _ o.view fid
      generalize Faults.write s f.delete o.view _ = out at hwrite ⊢
      obtain ⟨e | k, v, s'⟩ := out
      · exact hwrite
      · exact hwrite

variable (f l)

theorem staysTyped_setMetadata (s : Store) (items : OptionList) (domain : String) :
    s.StaysTyped (l.setMetadata f s items domain).2 i := by
  unfold setMetadata
  split
  · exact .refl s i
  · split
    · exact .refl s i
    · exact .change (f := (·.setMetadata domain items)) (.of_relabel rfl rfl)

theorem staysTyped_ask (hs : s.Sound) (hl : l.Fits s i) {r : LayerRequest} (hr : r.control? = none) :
    s.StaysTyped (l.ask f s r).store i := by
  cases r with
  | begin | commit | rollback => cases hr
  | reopen access => exact staysTyped_reopen f l hs access
  | close => exact .of_tables_eq (tables_close s l)
  | setMetadata items domain => exact staysTyped_setMetadata f l s items domain
  | setMetadataItem key value domain =>
    show s.StaysTyped (l.setMetadataItem f s key value domain).2 i
    unfold setMetadataItem
    split
    · exact .refl s i
    · split
      · exact .refl s i
      · exact staysTyped_setMetadata f l s _ _
  | create row => exact staysTyped_create hl row
  | replace row => exact staysTyped_replace hl row
  | upsert row => exact staysTyped_upsert hl row
  | delete fid => exact staysTyped_delete fid
  | configure | setInterrupt | extent | setPredicate | setSpatial | setSpatialWkt
  | setSpatialGeometry | setSpatialRect | setIgnored | setSelected | reset | next | fetch | seek
  | lookup | sync => exact .refl s i

/-- An overlay of open layers leaves the store that the overlay of their views leaves, and succeeds only
if that does; or it fails and leaves the store alone. -/
theorem overlay_cases (A : RegionAlgebra) (kind : OverlayKind) (s : Store)
    {input method result : Layer} {i m r : OpenLayer} (hi : input.state = some i)
    (hm : method.state = some m) (hr : result.state = some r) (o : Overlay.Options)
    (answer : Nat → Bool) :
    let out := overlay f A kind s input method result o answer
    let views := Overlay.run A kind s i.view m.view r.view o answer
    out.store = s ∧ out.value ≠ .ok () ∨
      out.store = views.store ∧ (out.value = .ok () → views.value = .ok ()) := by
  have hrun : f.runOverlay s A kind i.view m.view r.view o answer =
      Overlay.run A kind s i.view m.view r.view o answer ∨
      ∃ e, f.runOverlay s A kind i.view m.view r.view o answer = ⟨.error e, [], i.view, r.view, s⟩ := by
    unfold Faults.runOverlay
    split
    · exact .inr ⟨_, rfl⟩
    · exact .inl rfl
  unfold overlay
  simp only [hi, hm, hr]
  rcases hrun with hrun | ⟨e, hrun⟩
  · rw [hrun]
    generalize Overlay.run A kind s i.view m.view r.view o answer = views
    obtain ⟨_ | _, _, _, _, _⟩ := views
    · exact .inr ⟨rfl, nofun⟩
    · exact .inr ⟨rfl, fun _ => rfl⟩
  · rw [hrun]
    exact .inl ⟨rfl, nofun⟩

theorem overlay_store (A : RegionAlgebra) (kind : OverlayKind) (s : Store)
    (input method result : Layer) (o : Overlay.Options) (answer : Nat → Bool) :
    (overlay f A kind s input method result o answer).store = s ∨
      ∃ i m r, input.state = some i ∧ method.state = some m ∧ result.state = some r ∧
        (overlay f A kind s input method result o answer).store =
          (Overlay.run A kind s i.view m.view r.view o answer).store := by
  cases hi : input.state with
  | none =>
    left
    rw [overlay, hi]
  | some i =>
    cases hm : method.state with
    | none =>
      left
      rw [overlay, hi, hm]
    | some m =>
      cases hr : result.state with
      | none =>
        left
        rw [overlay, hi, hm, hr]
      | some r =>
        exact (overlay_cases f A kind s hi hm hr o answer).imp And.left fun h =>
          ⟨i, m, r, rfl, rfl, rfl, h.1⟩

theorem staysTyped_overlay (A : RegionAlgebra) (kind : OverlayKind) (s : Store)
    (input method result : Layer) (o : Overlay.Options) (answer : Nat → Bool)
    (hi : ∀ r, result.state = some r → r.view.table ≠ i) :
    s.StaysTyped (overlay f A kind s input method result o answer).store i := by
  rcases overlay_store f A kind s input method result o answer with h | ⟨j, m, r, -, -, hr, h⟩
  · rw [h]
    exact .refl s i
  · obtain ⟨t, ht⟩ := Overlay.run_store A kind s j.view m.view r.view o answer
    rw [h, ht]
    exact .setTable fun hr' => absurd hr' (hi r hr)

end Layer

end FeatureLayer
