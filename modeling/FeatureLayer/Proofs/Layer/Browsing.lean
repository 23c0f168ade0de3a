import FeatureLayer.Proofs.Layer.Sparing

namespace FeatureLayer

namespace Faults

variable (f : Faults) {s s' : Store} {v : View}

theorem next_congr (h : s'.table v.table = s.table v.table) : f.next s' v = f.next s v := by
  rw [next, next, h]

theorem setPredicate_congr (h : s'.table v.table = s.table v.table) (call : Nat)
    (text : Option String) : f.setPredicate s' call v text = f.setPredicate s call v text := by
  rw [setPredicate, setPredicate, h]

theorem seekTo_congr (h : s'.table v.table = s.table v.table) (index : Int) :
    f.seekTo s' v index = f.seekTo s v index := by
  rw [seekTo, seekTo, h]

theorem countOf_congr (h : s'.table v.table = s.table v.table) (force : Bool) :
    f.countOf s' v force = f.countOf s v force := by
  rw [countOf, countOf, h]

end Faults

namespace Layer

/-- Both stores hold the same table where the layer is open. -/
def SameTable (s s' : Store) (l : Layer) : Prop :=
  ∀ o, l.state = some o → s'.table o.view.table = s.table o.view.table

variable {f : Faults} {s s' : Store} {l l' : Layer} {o : OpenLayer}

theorem SameTable.moves {told : Bool} (h : l.SameTable s s') (hm : l.Moves told l') :
    l'.SameTable s s' := by
  intro o' ho'
  obtain ⟨o, ho, hm⟩ := hm.state o' ho'
  rw [hm.table]
  exact h o ho

theorem fetchRows_congr (plan : ReadPlan) (reading : ReadOptions) (limit : Nat) {p : Fetch}
    (h : s'.table p.view.table = s.table p.view.table) :
    fetchRows f s' plan reading limit p = fetchRows f s plan reading limit p := by
  induction limit generalizing p with
  | zero => rfl
  | succ limit ih =>
    obtain ⟨place, hplace⟩ := f.next_eq s p.view
    unfold fetchRows
    rw [f.next_congr h]
    obtain ⟨r, hnext⟩ : ∃ r, f.next s p.view = (r, { p.view with position := place }) :=
      ⟨_, Prod.ext rfl hplace⟩
    have hrest := fun table interrupt =>
      ih (p := ⟨{ p.view with position := place }, table, interrupt⟩) h
    rw [hnext]
    cases r with
    | none => rfl
    | some r => simp only [hrest]

theorem fetchFrom_congr (view : View) (h : s'.table view.table = s.table view.table)
    (expected : Option Int) (room limit : Nat) :
    l.fetchFrom f s' o view expected room limit = l.fetchFrom f s o view expected room limit := by
  unfold fetchFrom
  simp only [fetchRows_congr _ _ _ (p := ⟨view, .start (l.plan o), l.interrupt⟩) h]

theorem fetch_congr (h : l.SameTable s s') (size : FetchSize) :
    l.fetch f s' size = l.fetch f s size := by
  cases ho : l.state with
  | none => simp only [fetch, ho]
  | some o =>
    have htable := h o ho
    cases size with
    | rows n =>
      rw [fetch_rows f s' ho, fetch_rows f s ho, htable]
      exact fetchFrom_congr o.view htable ..
    | all =>
      rw [fetch_all f s' ho, fetch_all f s ho, htable,
        f.countOf_congr (v := o.view.rewind) htable]
      exact fetchFrom_congr o.view.rewind htable ..

theorem restoreFilters_congr (h : l.SameTable s s') : l.restoreFilters f s' = l.restoreFilters f s := by
  cases ho : l.state with
  | none => simp only [restoreFilters, ho]
  | some o => simp only [restoreFilters, ho, f.setPredicate_congr (h o ho)]

theorem setPredicate_congr (h : l.SameTable s s') (text : String) :
    l.setPredicate f s' text = l.setPredicate f s text := by
  cases ho : l.state with
  | none => simp only [setPredicate, ho]
  | some o =>
    simp only [setPredicate, ho, f.setPredicate_congr (h o ho)]
    generalize hset : f.setPredicate s 0 o.view _ = set
    have hview : s'.table set.2.table = s.table set.2.table := by
      have htable : set.2.table = o.view.table := by
        rw [← hset]
        exact congrArg (·.1) (f.setPredicate_handle s 0 o.view _)
      rw [htable]
      exact h o ho
    obtain ⟨_ | _, view⟩ := set
    · simp only [f.setPredicate_congr (v := view) hview]
    · rfl

theorem lookup_congr (h : l.SameTable s s') (fid : Int) : l.lookup f s' fid = l.lookup f s fid := by
  cases ho : l.state with
  | none => simp only [lookup, ho]
  | some o =>
    have htable := h o ho
    have hset := fun text => f.setPredicate_congr (v := o.view.setSpatial none) htable 0 (some text)
    simp only [lookup, ho, htable, hset]
    generalize fidPredicate _ fid = text
    have hasked : (l.withState
        { o with view := (f.setPredicate s 0 (o.view.setSpatial none) (some text)).2 }).SameTable s s' := by
      intro o' ho'
      obtain rfl := Option.some.inj ho'
      have hview : (f.setPredicate s 0 (o.view.setSpatial none) (some text)).2.table = o.view.table :=
        congrArg (·.1) (f.setPredicate_handle s 0 (o.view.setSpatial none) _)
      simp only [hview, htable]
    generalize f.setPredicate s 0 (o.view.setSpatial none) (some text) = set at hasked ⊢
    obtain ⟨_ | _, view⟩ := set
    · simp only [restoreFilters_congr hasked]
    · simp only [fetch_congr hasked, restoreFilters_congr (hasked.moves (fetch_keeps f s _ (.rows 1)).moves)]

/-- A request to browse is answered from the table of the layer, and leaves the store alone. -/
theorem ask_congr (h : l.SameTable s s') {r : LayerRequest} (hr : r.browses = true) :
    l.ask f s' r = { l.ask f s r with store := s' } := by
  cases r with
  | reset | setSpatial | setSpatialWkt | setSpatialGeometry | setSpatialRect => rfl
  | next =>
    cases ho : l.state with
    | none => simp only [ask, next, ho]
    | some o => simp only [ask, next, ho, f.next_congr (h o ho)]
  | fetch size => simp only [ask, fetch_congr h]
  | seek index =>
    cases ho : l.state with
    | none => simp only [ask, seek, ho]
    | some o => simp only [ask, seek, ho, f.seekTo_congr (h o ho)]
  | lookup fid => simp only [ask, lookup_congr h]
  | setPredicate text => simp only [ask, setPredicate_congr h]
  | _ => cases hr

theorem store_of_browses {r : LayerRequest} (hr : r.browses = true) (s : Store) (l : Layer) :
    (l.ask f s r).store = s := by
  cases r <;> first | rfl | cases hr

theorem moves_of_browses {r : LayerRequest} (hr : r.browses = true) (s : Store) (l : Layer) :
    l.Moves false (l.ask f s r).layer := by
  have hmoves := ask_moves f s l (r := r)
  cases r <;> first | exact hmoves rfl | cases hr

theorem answers_congr (h : l.SameTable s s') {rs : List LayerRequest}
    (hrs : ∀ r ∈ rs, r.browses = true) : l.answers f s' rs = l.answers f s rs := by
  induction rs generalizing l with
  | nil => rfl
  | cons r rs ih =>
    obtain ⟨hr, hrs⟩ := List.forall_mem_cons.mp hrs
    simp only [answers, ask_congr h hr, store_of_browses hr]
    rw [ih (h.moves (moves_of_browses hr s l)) hrs]

end Layer

end FeatureLayer
