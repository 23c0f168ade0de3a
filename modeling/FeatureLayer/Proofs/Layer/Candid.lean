import FeatureLayer.Proofs.Layer.Step
import FeatureLayer.Proofs.Store.Restoring

namespace FeatureLayer

/-- Where the layer keeps no filter, its view has none. -/
structure OpenLayer.Candid (o : OpenLayer) : Prop where
  predicate : o.filters.predicate = "" → o.view.predicate = none
  spatial : o.filters.spatial = none → o.view.spatial = none

theorem OpenLayer.Candid.unlimited {o : OpenLayer} (h : o.Candid) (hw : o.Whole)
    (hf : o.filters = .none) (hi : o.ignored = .none) : o.view.Unlimited where
  predicate := h.predicate (by rw [hf]; rfl)
  spatial := h.spatial (by rw [hf]; rfl)
  ignored := hw hi

theorem Filters.predicate?_of_empty {fs : Filters} (h : fs.predicate = "") :
    fs.predicate? = Option.none := by
  simp [predicate?, h]

namespace Layer

def Candid (l : Layer) : Prop := ∀ o, l.state = some o → o.Candid

variable {s s' : Store} {l l' : Layer}

theorem Candid.keeps {told : Bool} (h : l.Candid) (hk : l.Keeps told l') : l'.Candid := by
  intro o' ho'
  obtain ⟨o, ho, hk⟩ := hk.state o' ho'
  refine ⟨fun hp => ?_, fun hs => ?_⟩
  · exact hk.predicate.trans ((h o ho).predicate (hk.filters ▸ hp))
  · exact hk.spatial.trans ((h o ho).spatial (hk.filters ▸ hs))

theorem Candid.refreshSchema {f : Faults} (h : l.Candid) : (l.refreshSchema f s).1.Candid := by
  intro o' ho'
  obtain ⟨o, _, ho, rfl⟩ := refreshSchema_state f s ho'
  exact ⟨(h o ho).predicate, (h o ho).spatial⟩

theorem candid_of_fresh (hq : l.source.isQuery = false)
    (h : ∀ o, l.state = some o → o.Fresh s s' l.source) : l.Candid := by
  intro o ho
  exact ⟨fun _ => (h o ho).unfiltered.2, fun hnone => ((h o ho).spatial hq).trans hnone⟩

theorem Candid.setPredicate (h : l.Candid) (text : String) :
    (l.setPredicate .none s text).2.2.Candid := by
  unfold Layer.setPredicate
  cases ho : l.state with
  | none => exact h
  | some o =>
    generalize (String.ofList (Text.trim text.toList)) = trimmed
    simp only
    have hspatial := Faults.none.setPredicate_spatial s 0 o.view
      (if trimmed.isEmpty then none else some trimmed)
    split
    next view heq =>
      rw [heq] at hspatial
      intro o' ho'
      obtain rfl := Option.some.inj ho'
      refine ⟨fun hp => ?_, fun hs => hspatial.trans ((h o ho).spatial hs)⟩
      have hp : trimmed = "" := hp
      rw [hp] at heq
      cases heq
      rfl
    next e view heq =>
      rw [heq] at hspatial
      intro o' ho'
      obtain rfl := Option.some.inj ho'
      refine ⟨fun hp => ?_, fun hs => ?_⟩
      · -- no predicate is always accepted
        simp only [Filters.predicate?_of_empty hp]
        rfl
      · exact (Faults.none.setPredicate_spatial s 1 view _).trans
          (hspatial.trans ((h o ho).spatial hs))

theorem Candid.setSpatial (h : l.Candid) (filter : Option SpatialFilter) :
    (l.setSpatial filter).2.Candid := by
  unfold Layer.setSpatial
  cases ho : l.state with
  | none => exact h
  | some o =>
    intro o' ho'
    obtain rfl := Option.some.inj ho'
    exact ⟨(h o ho).predicate, id⟩

theorem restoreFilters_candid
    (h : ∀ o, l.state = some o → o.filters.spatial = none → o.view.spatial = none) :
    (l.restoreFilters .none s).2.Candid := by
  unfold restoreFilters
  cases ho : l.state with
  | none =>
    intro o' ho'
    simp [ho] at ho'
  | some o =>
    have hpredicate : o.filters.predicate = "" →
        Faults.none.setPredicate s 1 o.view o.filters.predicate? =
          (.ok (), { o.view.rewind with predicate := none }) := by
      intro hp
      rw [Filters.predicate?_of_empty hp]
      rfl
    have hspatial := Faults.none.setPredicate_spatial s 1 o.view o.filters.predicate?
    simp only
    generalize Faults.none.setPredicate s 1 o.view o.filters.predicate? = restored
      at hpredicate hspatial ⊢
    obtain ⟨e | u, view⟩ := restored
    · intro o' ho'
      obtain rfl := Option.some.inj ho'
      exact ⟨fun hp => (nomatch hpredicate hp), fun hs => hspatial.trans (h o ho hs)⟩
    · intro o' ho'
      obtain rfl := Option.some.inj ho'
      exact ⟨fun hp => by cases hpredicate hp; rfl, id⟩

theorem Candid.lookup (h : l.Candid) (fid : Int) : (l.lookup .none s fid).2.2.Candid := by
  unfold Layer.lookup
  cases ho : l.state with
  | none => exact h
  | some o =>
    simp only
    have hspatial := Faults.none.setPredicate_spatial s 0 (o.view.setSpatial none)
      (some (fidPredicate (s.table o.view.table).fidColumn fid))
    have hview : ∀ l₁ : Layer, (l.withState { o with
        view := (Faults.none.setPredicate s 0 (o.view.setSpatial none)
          (some (fidPredicate (s.table o.view.table).fidColumn fid))).2 }).Keeps false l₁ →
        (l₁.restoreFilters .none s).2.Candid := by
      intro l₁ hk
      refine restoreFilters_candid fun o₁ ho₁ _ => ?_
      obtain ⟨o₂, ho₂, hk⟩ := hk.state o₁ ho₁
      obtain rfl := Option.some.inj ho₂
      exact hk.spatial.trans hspatial
    split
    · exact hview _ (.refl _)
    · exact hview _ (fetch_keeps .none s _ (.rows 1))

theorem Candid.ask (h : l.Candid) (hq : l.source.isQuery = false) (r : LayerRequest) :
    (l.ask .none s r).layer.Candid := by
  have hspatial : ∀ l' : Layer, (l' = l ∨ ∃ g, l' = (l.setSpatial (some g)).2) → l'.Candid := by
    rintro l' (rfl | ⟨g, rfl⟩)
    · exact h
    · exact h.setSpatial _
  cases hr : r.refilters with
  | false => exact h.keeps (ask_keeps .none s l hr)
  | true =>
    cases r with
    | reopen access =>
      obtain ⟨hsource, hfresh⟩ := reopen_state .none s l access
      rw [← hsource] at hq hfresh
      exact candid_of_fresh hq hfresh
    | close =>
      intro o' ho'
      cases (close_state s l).1.symm.trans ho'
    | setPredicate text => exact h.setPredicate (s := s) text
    | setSpatial g => exact h.setSpatial _
    | setSpatialWkt text => exact hspatial _ (setSpatialWkt_cases .none l text)
    | setSpatialGeometry g => exact hspatial _ (setSpatialGeometry_cases .none l g)
    | setSpatialRect e => exact hspatial _ (setSpatialRect_cases l e)
    | lookup fid => exact h.lookup fid
    | _ => cases hr

end Layer

end FeatureLayer
