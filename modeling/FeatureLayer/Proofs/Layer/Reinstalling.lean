import FeatureLayer.Proofs.Layer.Step
/-!
What a look for the record of an identifier leaves of a layer, for a store that may reject any predicate
at any call. The predicate is put back first, and the spatial filter only if that was taken.
-/

namespace FeatureLayer

theorem View.setPredicate_uniform (t : FeatureTable) (text : Option String) :
    (∃ p, ∀ v : View, v.setPredicate t text = (.ok (), { v.rewind with predicate := p })) ∨
      ∃ e d, ∀ v : View, v.setPredicate t text = (.error e, { v.rewind with lastError := d }) := by
  unfold setPredicate
  cases text.filter (!Text.isBlank ·) with
  | none => exact .inl ⟨none, fun v => rfl⟩
  | some s =>
    cases hparse : Predicate.parse (vocabulary t) s with
    | ok p => exact .inl ⟨some p, fun v => by simp only [hparse]⟩
    | error e => exact .inr ⟨_, _, fun v => by simp only [hparse]; rfl⟩

theorem Faults.setPredicate_uniform (f : Faults) (s : Store) (call table : Nat)
    (text : Option String) :
    (∃ p, ∀ v : View, v.table = table →
        f.setPredicate s call v text = (.ok (), { v.rewind with predicate := p })) ∨
      ∃ e, ∀ v : View, v.table = table → ∃ place d,
        f.setPredicate s call v text = (.error e, { v with position := place, lastError := d }) := by
  unfold setPredicate
  cases f.predicate call text with
  | some e => exact .inr ⟨e, fun v _ => ⟨v.position, v.lastError, rfl⟩⟩
  | none =>
    rcases View.setPredicate_uniform (s.table table) text with ⟨p, hset⟩ | ⟨e, d, hset⟩
    · exact .inl ⟨p, fun v hv => by subst hv; exact hset v⟩
    · exact .inr ⟨e, fun v hv => ⟨.none, d, by subst hv; exact hset v⟩⟩

/-- An open layer that was put back to its start under these filters of its view, and with all else that
it kept. -/
structure OpenLayer.PutBack (predicate : Option Predicate) (spatial : Option SpatialFilter)
    (o o' : OpenLayer) : Prop where
  kept : o' = { o with view := o'.view, scan := .idle }
  view : o'.view = { o.view with
    predicate, spatial, position := none, lastError := o'.view.lastError }

namespace Layer

variable {f : Faults} {s : Store} {l : Layer} {o : OpenLayer}

theorem fetch_rows_reaches (f : Faults) (s : Store) (ho : l.state = some o) (n : Nat) :
    ∃ place scan asked, (l.fetch f s (.rows n)).2.2 =
      { l.withState { o with view := { o.view with position := place }, scan } with
        interrupt := asked } := by
  rw [fetch_rows f s ho, fetchFrom]
  simp only
  split
  · exact ⟨o.view.position, o.scan, l.interrupt, rfl⟩
  · generalize min n _ = limit
    obtain ⟨place, hplace⟩ := fetchRows_eq f s (l.plan o) l.reading limit
      ⟨o.view, .start (l.plan o), l.interrupt⟩
    generalize fetchRows f s (l.plan o) l.reading limit ⟨o.view, .start (l.plan o), l.interrupt⟩ =
      fetched at hplace
    obtain ⟨e, p⟩ := fetched
    simp only at hplace ⊢
    rw [hplace]
    cases e with
    | error e => exact ⟨place, .scanning, p.interrupt, rfl⟩
    | ok u => exact ⟨place, .scanning, p.interrupt, rfl⟩

def looking (f : Faults) (s : Store) (o : OpenLayer) (fid : Int) : View :=
  (f.setPredicate s 0 (o.view.setSpatial none)
    (some (fidPredicate (s.table o.view.table).fidColumn fid))).2

theorem looking_eq (f : Faults) (s : Store) (o : OpenLayer) (fid : Int) :
    ∃ p d, looking f s o fid =
      { o.view with predicate := p, spatial := none, position := none, lastError := d } := by
  rcases f.setPredicate_eq s 0 (o.view.setSpatial none)
    (some (fidPredicate (s.table o.view.table).fidColumn fid)) with ⟨e, he⟩ | ⟨p, d, he⟩
  · exact ⟨o.view.predicate, o.view.lastError, congrArg Prod.snd he⟩
  · exact ⟨p, d, he⟩

/-- Whether the lookup predicate is taken or not, and whatever comes of reading the record, the kept
filters are restored from a layer that has been moved on alone. -/
theorem lookup_reaches (f : Faults) (s : Store) (ho : l.state = some o) (fid : Int) :
    ∃ place scan asked ws l₁, l₁ = { l.withState
        { o with view := { looking f s o fid with position := place }, scan } with
          interrupt := asked } ∧
      (l.lookup f s fid).2 = (ws ++ (l₁.restoreFilters f s).1, (l₁.restoreFilters f s).2) := by
  unfold lookup
  rw [ho, looking]
  simp only
  generalize f.setPredicate s 0 (o.view.setSpatial none) _ = set
  obtain ⟨answer, view⟩ := set
  cases answer with
  | error e => exact ⟨view.position, o.scan, l.interrupt, [], _, rfl, rfl⟩
  | ok u =>
    obtain ⟨place, scan, asked, hfetch⟩ :=
      fetch_rows_reaches f s (l := l.withState { o with view }) rfl 1
    refine ⟨place, scan, asked, ((l.withState { o with view }).fetch f s (.rows 1)).2.1, _, rfl, ?_⟩
    simp only [hfetch]
    rfl

theorem restoreFilters_of_taken (ho : l.state = some o) {p : Option Predicate}
    (h : ∀ v : View, v.table = o.view.table →
      f.setPredicate s 1 v o.filters.predicate? = (.ok (), { v.rewind with predicate := p })) :
    ∃ o', l.restoreFilters f s = ([], l.withState o') ∧ o.PutBack p o.filters.spatial o' := by
  unfold restoreFilters
  rw [ho]
  simp only [h o.view rfl]
  exact ⟨_, rfl, rfl, rfl⟩

theorem restoreFilters_of_rejected (ho : l.state = some o) {e : Error}
    (h : ∀ v : View, v.table = o.view.table → ∃ place d,
      f.setPredicate s 1 v o.filters.predicate? =
        (.error e, { v with position := place, lastError := d })) :
    ∃ o', l.restoreFilters f s = (l.report [.filtersNotRestored e], l.withState o') ∧
      o.PutBack o.view.predicate o.view.spatial o' := by
  obtain ⟨place, d, h⟩ := h o.view rfl
  unfold restoreFilters
  rw [ho]
  simp only [h]
  exact ⟨_, rfl, rfl, rfl⟩

end Layer

end FeatureLayer
