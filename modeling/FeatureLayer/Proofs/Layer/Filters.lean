import FeatureLayer.Proofs.Layer.Step
/-!
A layer keeps filters so that it can install them again. Every request leaves the view of the layer
under the filters that are kept, as long as the fields and the identifier of the table keep their
names.
-/

namespace FeatureLayer

theorem Text.isBlank_trim_eq_false {cs : List Char} (h : Text.trim cs ≠ []) :
    Text.isBlank (.ofList (Text.trim cs)) = false := by
  have hne : (cs.dropWhile isWhiteSpace).reverse.dropWhile isWhiteSpace ≠ [] := by
    simpa [trim] using h
  have hlast := List.head_dropWhile_not isWhiteSpace hne
  rw [isBlank, String.toList_ofList, List.all_eq_false]
  refine ⟨_, ?_, by rw [hlast]; exact Bool.false_ne_true⟩
  rw [trim, List.mem_reverse]
  exact List.head_mem hne

/-- The predicate of a layer is the one that its view runs under. -/
structure Filters.Stated (voc : Vocabulary) (fs : Filters) (v : View) : Prop where
  worded : ∀ text, fs.predicate? = some text → Text.isBlank text = false
  parsed : fs.predicate?.mapM (Predicate.parse voc) = .ok v.predicate

/-- The filters of a layer are those that its view runs under. -/
structure Filters.Installed (voc : Vocabulary) (fs : Filters) (v : View) : Prop
    extends fs.Stated voc v where
  spatial : v.spatial = fs.spatial

theorem Filters.Stated.congr {voc : Vocabulary} {fs fs' : Filters} {v v' : View}
    (h : fs.Stated voc v) (hf : fs' = fs) (hp : v'.predicate = v.predicate) :
    fs'.Stated voc v' := by
  subst hf
  exact ⟨h.worded, hp ▸ h.parsed⟩

theorem OpenLayer.Fresh.stated {s s' : Store} {source : LayerSource} {o : OpenLayer}
    (h : o.Fresh s s' source) (voc : Vocabulary) : o.filters.Stated voc o.view := by
  obtain ⟨hp, hv⟩ := h.unfiltered
  have hnone : o.filters.predicate? = none := by simp [Filters.predicate?, hp]
  refine ⟨fun text ht => by simp [hnone] at ht, ?_⟩
  rw [hnone, hv]
  rfl

theorem View.setPredicate_cases (t : FeatureTable) (v : View) {text : Option String}
    (h : ∀ s, text = some s → Text.isBlank s = false) :
    (∃ p, text.mapM (Predicate.parse (vocabulary t)) = .ok p ∧
        v.setPredicate t text = (.ok (), { v.rewind with predicate := p })) ∨
      ((∀ p, text.mapM (Predicate.parse (vocabulary t)) ≠ .ok p) ∧
        ∃ e d, v.setPredicate t text = (.error e, { v.rewind with lastError := d })) := by
  cases text with
  | none => exact .inl ⟨none, rfl, rfl⟩
  | some s =>
    have hf : (some s).filter (!Text.isBlank ·) = some s := by simp [h s rfl]
    have hmap : (some s).mapM (Predicate.parse (vocabulary t)) =
        (Predicate.parse (vocabulary t) s).map some := rfl
    unfold setPredicate
    rw [hf]
    cases hp : Predicate.parse (vocabulary t) s with
    | ok p =>
      refine .inl ⟨some p, ?_, by simp [hp]⟩
      rw [hmap, hp]
      rfl
    | error e =>
      refine .inr ⟨fun p h => ?_, _, _, by simp only [hp]; rfl⟩
      rw [hmap, hp] at h
      cases h

namespace Layer

def Stated (s : Store) (l : Layer) : Prop :=
  ∀ o, l.state = some o → o.filters.Stated (View.vocabulary (s.table o.view.table)) o.view

def InStep (s : Store) (l : Layer) : Prop :=
  ∀ o, l.state = some o → o.filters.Installed (View.vocabulary (s.table o.view.table)) o.view

variable {s s' : Store} {l l' : Layer}

theorem InStep.stated (h : l.InStep s) : l.Stated s := fun o ho => (h o ho).toStated

theorem InStep.of_stated (h : l.Stated s)
    (hs : ∀ o, l.state = some o → o.view.spatial = o.filters.spatial) : l.InStep s :=
  fun o ho => ⟨h o ho, hs o ho⟩

theorem Stated.congr (h : l.Stated s)
    (hv : ∀ o, l.state = some o →
      View.vocabulary (s'.table o.view.table) = View.vocabulary (s.table o.view.table)) :
    l.Stated s' := by
  intro o ho
  rw [hv o ho]
  exact h o ho

theorem InStep.congr (h : l.InStep s)
    (hv : ∀ o, l.state = some o →
      View.vocabulary (s'.table o.view.table) = View.vocabulary (s.table o.view.table)) :
    l.InStep s' :=
  .of_stated (h.stated.congr hv) fun o ho => (h o ho).spatial

theorem stated_of_fresh {s₁ s₂ : Store} (h : ∀ o, l.state = some o → o.Fresh s₁ s₂ l.source) :
    l.Stated s := fun o ho => (h o ho).stated _

theorem inStep_of_fresh {s₁ s₂ : Store} (h : ∀ o, l.state = some o → o.Fresh s₁ s₂ l.source)
    (hq : l.source.isQuery = false) : l.InStep s :=
  .of_stated (stated_of_fresh h) fun o ho => (h o ho).spatial hq

theorem Stated.keeps {told : Bool} (h : l.Stated s) (hk : l.Keeps told l') : l'.Stated s := by
  intro o' ho'
  obtain ⟨o, ho, hk⟩ := hk.state o' ho'
  rw [hk.table]
  exact (h o ho).congr hk.filters hk.predicate

theorem InStep.keeps {told : Bool} (h : l.InStep s) (hk : l.Keeps told l') : l'.InStep s := by
  refine .of_stated (h.stated.keeps hk) fun o' ho' => ?_
  obtain ⟨o, ho, hk⟩ := hk.state o' ho'
  rw [hk.spatial, hk.filters, (h o ho).spatial]

theorem Stated.refreshSchema {f : Faults} (h : l.Stated s) : (l.refreshSchema f s').1.Stated s := by
  intro o' ho'
  obtain ⟨o, _, ho, rfl⟩ := refreshSchema_state f s' ho'
  exact h o ho

theorem InStep.refreshSchema {f : Faults} (h : l.InStep s) : (l.refreshSchema f s').1.InStep s := by
  intro o' ho'
  obtain ⟨o, _, ho, rfl⟩ := refreshSchema_state f s' ho'
  exact h o ho

/-- Filters that can be read are installed by restoring them. -/
theorem restoreFilters_inStep
    (h : ∀ o, l.state = some o →
      (∀ text, o.filters.predicate? = some text → Text.isBlank text = false) ∧
        ∃ p, o.filters.predicate?.mapM
          (Predicate.parse (View.vocabulary (s.table o.view.table))) = .ok p) :
    (l.restoreFilters .none s).2.InStep s := by
  unfold restoreFilters
  cases ho : l.state with
  | none =>
    intro o' ho'
    simp [ho] at ho'
  | some o =>
    obtain ⟨hw, p, hp⟩ := h o ho
    have hset : Faults.none.setPredicate s 1 o.view o.filters.predicate? =
        (.ok (), { o.view.rewind with predicate := p }) := by
      rcases View.setPredicate_cases (s.table o.view.table) o.view hw with ⟨q, hq, hset⟩ | ⟨hn, -⟩
      · rw [hp] at hq
        cases hq
        exact hset
      · exact absurd hp (hn p)
    simp only [hset]
    intro o' ho'
    obtain rfl := Option.some.inj ho'
    exact ⟨⟨hw, hp⟩, rfl⟩

theorem Stated.setPredicate (h : l.Stated s) (text : String) :
    (l.setPredicate .none s text).2.2.Stated s := by
  unfold Layer.setPredicate
  cases ho : l.state with
  | none =>
    intro o' ho'
    simp [ho] at ho'
  | some o =>
    simp only
    generalize hword : String.ofList (Text.trim text.toList) = word
    have hw : ∀ t, (if word.isEmpty then none else some word) = some t → Text.isBlank t = false := by
      intro t ht
      split at ht
      · cases ht
      · rename_i hne
        cases ht
        rw [← hword]
        refine Text.isBlank_trim_eq_false fun hnil => hne ?_
        rw [← hword, hnil]
        rfl
    obtain ⟨hw', hp'⟩ := h o ho
    rcases View.setPredicate_cases (s.table o.view.table) o.view hw with
      ⟨p, hp, hset⟩ | ⟨-, e, d, hset⟩
    · have hset : Faults.none.setPredicate s 0 o.view (if word.isEmpty then none else some word) =
          (.ok (), { o.view.rewind with predicate := p }) := hset
      rw [hset]
      intro o' ho'
      obtain rfl := Option.some.inj ho'
      exact ⟨hw, hp⟩
    · -- the text is refused, and the one before is read again
      have hset : Faults.none.setPredicate s 0 o.view (if word.isEmpty then none else some word) =
          (.error e, { o.view.rewind with lastError := d }) := hset
      rw [hset]
      rcases View.setPredicate_cases (s.table o.view.table) { o.view.rewind with lastError := d } hw'
        with ⟨p, hp, hback⟩ | ⟨hn, -⟩
      · have hback : Faults.none.setPredicate s 1 { o.view.rewind with lastError := d }
            o.filters.predicate? = (.ok (), { o.view.rewind with lastError := d, predicate := p }) :=
          hback
        simp only [hback]
        intro o' ho'
        obtain rfl := Option.some.inj ho'
        exact ⟨hw', hp⟩
      · exact absurd hp' (hn _)

theorem setPredicate_spatial (f : Faults) (s : Store) (l : Layer) (text : String) {o' : OpenLayer}
    (h : (l.setPredicate f s text).2.2.state = some o') :
    ∃ o, l.state = some o ∧ o'.filters.spatial = o.filters.spatial ∧
      o'.view.spatial = o.view.spatial := by
  unfold Layer.setPredicate at h
  cases ho : l.state with
  | none =>
    rw [ho] at h
    cases ho.symm.trans h
  | some o =>
    rw [ho] at h
    simp only at h
    generalize (if (String.ofList (Text.trim text.toList)).isEmpty then none
      else some (String.ofList (Text.trim text.toList))) = asked at h
    have hasked := f.setPredicate_spatial s 0 o.view asked
    split at h
    next v heq =>
      rw [heq] at hasked
      obtain rfl := Option.some.inj h
      exact ⟨o, rfl, rfl, hasked⟩
    next v heq =>
      rw [heq] at hasked
      obtain rfl := Option.some.inj h
      exact ⟨o, rfl, rfl, (f.setPredicate_spatial s 1 v _).trans hasked⟩

theorem InStep.setPredicate (h : l.InStep s) (text : String) :
    (l.setPredicate .none s text).2.2.InStep s := by
  refine .of_stated (h.stated.setPredicate text) fun o' ho' => ?_
  obtain ⟨o, ho, hkept, hview⟩ := setPredicate_spatial .none s l text ho'
  rw [hview, hkept, (h o ho).spatial]

theorem Stated.setSpatial (h : l.Stated s) (filter : Option SpatialFilter) :
    (l.setSpatial filter).2.InStep s := by
  unfold Layer.setSpatial
  cases ho : l.state with
  | none =>
    intro o' ho'
    simp [ho] at ho'
  | some o =>
    obtain ⟨hw, hp⟩ := h o ho
    intro o' ho'
    obtain rfl := Option.some.inj ho'
    exact ⟨⟨hw, hp⟩, rfl⟩

theorem Stated.lookup (h : l.Stated s) (fid : Int) : (l.lookup .none s fid).2.2.InStep s := by
  unfold Layer.lookup
  cases ho : l.state with
  | none =>
    intro o' ho'
    simp [ho] at ho'
  | some o =>
    obtain ⟨hw, hp⟩ := h o ho
    simp only
    generalize fidPredicate _ fid = text
    have hhandle : (Faults.none.setPredicate s 0 (o.view.setSpatial none) (some text)).2.handle =
        o.view.handle := Faults.none.setPredicate_handle s 0 _ _
    generalize Faults.none.setPredicate s 0 (o.view.setSpatial none) (some text) = set at hhandle
    -- the filters that are kept are not touched before they are restored
    have hkept : ∀ l₁ : Layer, (l.withState { o with view := set.2 }).Keeps false l₁ →
        (l₁.restoreFilters .none s).2.InStep s := by
      intro l₁ hk
      refine restoreFilters_inStep fun o₁ ho₁ => ?_
      obtain ⟨o₂, ho₂, hk⟩ := hk.state o₁ ho₁
      obtain rfl := Option.some.inj ho₂
      have htable : o₁.view.table = o.view.table := congrArg (·.1) (hk.handle.trans hhandle)
      rw [hk.filters, htable]
      exact ⟨hw, o.view.predicate, hp⟩
    split
    · exact hkept _ (.refl _)
    · exact hkept _ (fetch_keeps .none s _ (.rows 1))

/-- Requests that set filters leave a layer with them installed, if they were before; those that set
the spatial filter install it anyhow. -/
theorem Stated.ask_refilters (h : l.Stated s) {r : LayerRequest} (hr : r.refilters = true)
    (hc : r.closes = false) :
    (l.ask .none s r).layer.Stated s ∧ (l.InStep s → (l.ask .none s r).layer.InStep s) := by
  have hspatial : ∀ l' : Layer, (l' = l ∨ ∃ g, l' = (l.setSpatial (some g)).2) →
      l'.Stated s ∧ (l.InStep s → l'.InStep s) := by
    rintro l' (rfl | ⟨g, rfl⟩)
    · exact ⟨h, id⟩
    · exact ⟨(h.setSpatial _).stated, fun _ => h.setSpatial _⟩
  cases r with
  | setPredicate text => exact ⟨h.setPredicate text, fun h => h.setPredicate text⟩
  | setSpatial g => exact ⟨(h.setSpatial _).stated, fun _ => h.setSpatial _⟩
  | setSpatialWkt text => exact hspatial _ (setSpatialWkt_cases .none l text)
  | setSpatialGeometry g => exact hspatial _ (setSpatialGeometry_cases .none l g)
  | setSpatialRect e => exact hspatial _ (setSpatialRect_cases l e)
  | lookup fid => exact ⟨(h.lookup fid).stated, fun _ => h.lookup fid⟩
  | reopen | close => cases hc
  | _ => cases hr

theorem Stated.ask (h : l.Stated s) (r : LayerRequest) : (l.ask .none s r).layer.Stated s := by
  cases hr : r.refilters with
  | false => exact h.keeps (ask_keeps .none s l hr)
  | true =>
    cases hc : r.closes with
    | false => exact (h.ask_refilters hr hc).1
    | true => exact fun o' ho' => (ask_fresh .none s l hc ho').stated _

theorem InStep.ask (h : l.InStep s) (hq : l.source.isQuery = false) (r : LayerRequest) :
    (l.ask .none s r).layer.InStep s := by
  cases hr : r.refilters with
  | false => exact h.keeps (ask_keeps .none s l hr)
  | true =>
    cases hc : r.closes with
    | false => exact (h.stated.ask_refilters hr hc).2 h
    | true =>
      exact fun o' ho' =>
        ⟨(ask_fresh .none s l hc ho').stated _, (ask_fresh .none s l hc ho').spatial hq⟩

end Layer

end FeatureLayer
