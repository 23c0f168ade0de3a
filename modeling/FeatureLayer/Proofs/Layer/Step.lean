import FeatureLayer.Proofs.Layer.Calls

namespace FeatureLayer

def OpenLayer.Whole (o : OpenLayer) : Prop := o.ignored = .none → o.view.ignored = .none

/-- The same view on the same source, open for the same access. Where the scan is idle the view is at
its start, if it was before. -/
structure OpenLayer.Stays (o o' : OpenLayer) : Prop where
  handle : o'.view.handle = o.view.handle
  source : o'.connection.source = o.connection.source
  access : o'.access = o.access
  idle : o'.scan = .idle →
    o'.view.position = none ∨ (o.scan = .idle ∧ o'.view.position = o.view.position)

structure OpenLayer.Moves (told : Bool) (o o' : OpenLayer) : Prop extends o.Stays o' where
  schema : o'.schema = o.schema
  shown : (o'.ignored = o.ignored ∧ o'.view.ignored = o.view.ignored) ∨
    (told = true ∧ (o.Whole → o'.Whole))

structure OpenLayer.Keeps (told : Bool) (o o' : OpenLayer) : Prop extends o.Moves told o' where
  filters : o'.filters = o.filters
  predicate : o'.view.predicate = o.view.predicate
  spatial : o'.view.spatial = o.view.spatial

/-- What holds of a layer that has just been opened: it is at the start of a new view of its data
source, it knows the fields of the table and leaves none out. It has no predicate; on a name it has the
spatial filter that it keeps, on a query it may not write, and otherwise only if it is open for
writing. -/
structure OpenLayer.Fresh (s s' : Store) (source : LayerSource) (o : OpenLayer) : Prop where
  idle : o.scan = .idle
  atStart : o.view.position = none
  isNew : o.view.New s s'
  ignored : o.ignored = .none
  schema : o.schema.bare = (s'.table o.view.table).schema.bare
  shown : ∀ g ∈ o.schema.geometryFields, g.ignored = false
  unfiltered : o.filters.predicate = "" ∧ o.view.predicate = none
  spatial : source.isQuery = false → o.view.spatial = o.filters.spatial
  readOnly : source.isQuery = true → o.view.writable = false
  matched : o.view.source = o.connection.source
  permitted : o.view.writable = true → o.access = .readWrite

namespace OpenLayer

variable {told : Bool} {o o₁ o₂ : OpenLayer}

theorem Stays.table (h : o.Stays o₁) : o₁.view.table = o.view.table := congrArg (·.1) h.handle

theorem Stays.viewSource (h : o.Stays o₁) : o₁.view.source = o.view.source :=
  congrArg (·.2.1) h.handle

theorem Stays.writable (h : o.Stays o₁) : o₁.view.writable = o.view.writable :=
  congrArg (·.2.2.1) h.handle

theorem Stays.trans (h₁ : o.Stays o₁) (h₂ : o₁.Stays o₂) : o.Stays o₂ where
  handle := h₂.handle.trans h₁.handle
  source := h₂.source.trans h₁.source
  access := h₂.access.trans h₁.access
  idle hi := by
    rcases h₂.idle hi with hp | ⟨hs, hp⟩
    · exact .inl hp
    · rcases h₁.idle hs with hq | ⟨ht, hq⟩
      · exact .inl (hp.trans hq)
      · exact .inr ⟨ht, hp.trans hq⟩

theorem Fresh.works {s s' s'' : Store} {source : LayerSource} (h : o.Fresh s s' source)
    (hw : s'.Works False s'') (ht : s''.tables = s'.tables) : o.Fresh s s'' source :=
  { h with
    isNew := h.isNew.works hw ht
    schema := by
      rw [h.schema, Store.table, Store.table, ht] }

theorem Moves.shown_eq (h : o.Moves false o₁) :
    o₁.ignored = o.ignored ∧ o₁.view.ignored = o.view.ignored :=
  h.shown.resolve_right fun ht => Bool.false_ne_true ht.1

theorem Moves.whole (h : o.Moves told o₁) (hw : o.Whole) : o₁.Whole := by
  rcases h.shown with ⟨hi, hv⟩ | ⟨-, hwhole⟩
  · exact fun hnone => hv.trans (hw (hi.symm.trans hnone))
  · exact hwhole hw

theorem Moves.trans (h₁ : o.Moves false o₁) (h₂ : o₁.Moves false o₂) : o.Moves false o₂ where
  toStays := h₁.toStays.trans h₂.toStays
  schema := h₂.schema.trans h₁.schema
  shown := .inl ⟨h₂.shown_eq.1.trans h₁.shown_eq.1, h₂.shown_eq.2.trans h₁.shown_eq.2⟩

theorem Keeps.refl (o : OpenLayer) : o.Keeps false o :=
  ⟨⟨⟨rfl, rfl, rfl, fun h => .inr ⟨h, rfl⟩⟩, rfl, .inl ⟨rfl, rfl⟩⟩, rfl, rfl, rfl⟩

theorem keeps_connection {c : Connection} (h : c.source = o.connection.source) :
    o.Keeps false { o with connection := c } :=
  ⟨⟨⟨rfl, h, rfl, fun h => .inr ⟨h, rfl⟩⟩, rfl, .inl ⟨rfl, rfl⟩⟩, rfl, rfl, rfl⟩

theorem keeps_lastError (o : OpenLayer) (e : String) (k : Option Int) :
    o.Keeps false { o with view := { o.view with lastError := e }, lastWrite := k } :=
  ⟨⟨⟨rfl, rfl, rfl, fun h => .inr ⟨h, rfl⟩⟩, rfl, .inl ⟨rfl, rfl⟩⟩, rfl, rfl, rfl⟩

theorem keeps_scanning (o : OpenLayer) (p : Option Int) :
    o.Keeps false { o with view := { o.view with position := p }, scan := .scanning } :=
  ⟨⟨⟨rfl, rfl, rfl, nofun⟩, rfl, .inl ⟨rfl, rfl⟩⟩, rfl, rfl, rfl⟩

theorem keeps_rewind (o : OpenLayer) (e : String) :
    o.Keeps false { o with view := { o.view with position := none, lastError := e }, scan := .idle } :=
  ⟨⟨⟨rfl, rfl, rfl, fun _ => .inl rfl⟩, rfl, .inl ⟨rfl, rfl⟩⟩, rfl, rfl, rfl⟩

end OpenLayer

namespace Layer

structure Moves (told : Bool) (l l' : Layer) : Prop where
  source : l'.source = l.source
  isOpen : l'.isOpen = l.isOpen
  state : ∀ o', l'.state = some o' → ∃ o, l.state = some o ∧ o.Moves told o'

structure Keeps (told : Bool) (l l' : Layer) : Prop where
  source : l'.source = l.source
  isOpen : l'.isOpen = l.isOpen
  state : ∀ o', l'.state = some o' → ∃ o, l.state = some o ∧ o.Keeps told o'

variable {f : Faults} {s : Store} {told : Bool} {l l₁ l₂ : Layer} {o o' : OpenLayer} {q : Prop}

theorem Keeps.moves (h : l.Keeps told l₁) : l.Moves told l₁ where
  source := h.source
  isOpen := h.isOpen
  state o' ho' := by
    obtain ⟨o, ho, hk⟩ := h.state o' ho'
    exact ⟨o, ho, hk.toMoves⟩

theorem Moves.trans (h₁ : l.Moves false l₁) (h₂ : l₁.Moves false l₂) : l.Moves false l₂ where
  source := h₂.source.trans h₁.source
  isOpen := h₂.isOpen.trans h₁.isOpen
  state o₂ ho₂ := by
    obtain ⟨o₁, ho₁, hk₂⟩ := h₂.state o₂ ho₂
    obtain ⟨o, ho, hk₁⟩ := h₁.state o₁ ho₁
    exact ⟨o, ho, hk₁.trans hk₂⟩

theorem keeps_of_state_eq (hs : l₁.source = l.source) (h : l₁.state = l.state) :
    l.Keeps false l₁ where
  source := hs
  isOpen := congrArg Option.isSome h
  state o' ho' := ⟨o', h ▸ ho', .refl o'⟩

theorem Keeps.refl (l : Layer) : l.Keeps false l := keeps_of_state_eq rfl rfl

theorem Keeps.mono (h : l.Keeps false l₁) : l.Keeps told l₁ where
  source := h.source
  isOpen := h.isOpen
  state o' ho' := by
    obtain ⟨o, ho, hk⟩ := h.state o' ho'
    exact ⟨o, ho, ⟨⟨hk.toStays, hk.schema, .inl hk.shown_eq⟩, hk.filters, hk.predicate, hk.spatial⟩⟩

theorem keeps_withState (h : l.state = some o) (hk : o.Keeps told o') :
    l.Keeps told (l.withState o') where
  source := rfl
  isOpen := (congrArg Option.isSome h).symm
  state _ hs := by
    obtain rfl := Option.some.inj hs
    exact ⟨o, h, hk⟩

theorem moves_withState (h : l.state = some o) (hk : o.Moves told o') :
    l.Moves told (l.withState o') where
  source := rfl
  isOpen := (congrArg Option.isSome h).symm
  state _ hs := by
    obtain rfl := Option.some.inj hs
    exact ⟨o, h, hk⟩

/-! ### Requests that leave the filters alone -/

variable (f s l)

theorem extent_keeps (force : Bool) : l.Keeps false (l.extent f s force).2 := by
  unfold extent
  cases h : l.state with
  | none => exact .refl l
  | some o =>
    obtain ⟨e, he⟩ := f.extentOf_eq s o.view force
    refine keeps_withState h ?_
    rw [he]
    exact o.keeps_lastError e o.lastWrite

theorem setIgnored_keeps (names : List String) : l.Keeps true (l.setIgnored f s names).2 := by
  unfold setIgnored
  cases h : l.state with
  | none => exact (Keeps.refl l).mono
  | some o =>
    simp only
    split
    · exact (Keeps.refl l).mono
    · split
      · exact (Keeps.refl l).mono
      · generalize names.filterMap _ = found
        generalize (⟨positions o.schema.fields.length (found.flatMap (·.attributes)),
          positions o.schema.geometryFields.length (found.flatMap (·.geometries))⟩ :
            IgnoredFields) = ignored
        rcases f.ignoreFields_cases s o.view (storeNames o.schema ignored) with
          ⟨_, e, heq⟩ | ⟨i, heq, hi⟩
        · rw [heq]
          exact (keeps_withState h (o.keeps_lastError e o.lastWrite)).mono
        · rw [heq]
          refine keeps_withState h
            ⟨⟨⟨rfl, rfl, rfl, fun hs => .inr ⟨hs, rfl⟩⟩, rfl, .inr ⟨rfl, fun _ hnone => hi ?_⟩⟩, rfl, rfl,
              rfl⟩
          -- with no field left out there are no names to tell the view
          have hnone : ignored = .none := hnone
          rw [hnone]
          rfl

theorem setSelected_keeps (names : List String) : l.Keeps true (l.setSelected f s names).2 := by
  unfold setSelected
  split
  · exact (Keeps.refl l).mono
  · simp only
    split
    · exact (Keeps.refl l).mono
    · exact setIgnored_keeps f s l _

theorem reset_keeps : l.Keeps false l.reset.2 := by
  unfold reset
  split
  · exact .refl l
  · rename_i h
    exact keeps_withState h (OpenLayer.keeps_rewind _ _)

theorem next_keeps : l.Keeps false (l.next f s).2 := by
  unfold next
  cases h : l.state with
  | none => exact .refl l
  | some o =>
    obtain ⟨p, hp⟩ := f.next_eq s o.view
    have hk : o.Keeps false { o with view := (f.next s o.view).2, scan := .scanning } := by
      rw [hp]
      exact o.keeps_scanning p
    simp only
    split <;> exact keeps_withState h hk

theorem fetchRows_eq (plan : ReadPlan) (reading : ReadOptions) (limit : Nat) (p : Fetch) :
    ∃ q, (fetchRows f s plan reading limit p).2.view = { p.view with position := q } := by
  induction limit generalizing p with
  | zero => exact ⟨p.view.position, rfl⟩
  | succ limit ih =>
    obtain ⟨q, hq⟩ := f.next_eq s p.view
    unfold fetchRows
    split
    next heq => exact ⟨q, (congrArg (·.2) heq).symm.trans hq⟩
    next r view heq =>
      obtain rfl : view = { p.view with position := q } := (congrArg (·.2) heq).symm.trans hq
      split
      · exact ⟨q, rfl⟩
      · simp only
        split
        · exact ⟨q, rfl⟩
        · obtain ⟨q', hq'⟩ := ih ⟨{ p.view with position := q }, _, _⟩
          exact ⟨q', hq'⟩

/-- A fetch that starts from a place of the view, with room for so many rows. -/
def fetchFrom (o : OpenLayer) (view : View) (expected : Option Int) (room limit : Nat) :
    Except Error Table × List Warning × Layer :=
  let plan := l.plan o
  if !plan.fits room then (.error (.allocation room), [], l.withState { o with view })
  else
    let (e, p) := fetchRows f s plan l.reading limit ⟨view, .start plan, l.interrupt⟩
    let l := { l.withState { o with view := p.view, scan := .scanning } with interrupt := p.interrupt }
    match e with
    | .error e => (.error e, [], l)
    | .ok () =>
      let ws := match expected with
        | none => []
        | some n => if 0 ≤ n ∧ n < p.table.numRows then [.countMismatch n p.table.numRows] else []
      (.ok (p.table.finish room ws), l.report ws, l)

variable {l} in
theorem fetch_rows (h : l.state = some o) (n : Nat) :
    l.fetch f s (.rows n) =
      l.fetchFrom f s o o.view none n
        (min n ((s.table o.view.table).records.entries.length + 1)) := by
  unfold fetch
  rw [h]
  rfl

variable {l} in
theorem fetch_all (h : l.state = some o) :
    l.fetch f s .all =
      l.fetchFrom f s o o.view.rewind (some (f.countOf s o.view.rewind true))
        (f.countOf s o.view.rewind true).toNat
        ((s.table o.view.table).records.entries.length + 1) := by
  unfold fetch
  rw [h]
  rfl

variable {l} in
theorem fetchFrom_keeps (h : l.state = some o) {p : Option Int} (hp : p = none ∨ p = o.view.position)
    (expected : Option Int) (room limit : Nat) :
    l.Keeps false (l.fetchFrom f s o { o.view with position := p } expected room limit).2.2 := by
  unfold fetchFrom
  simp only
  split
  · refine keeps_withState h ⟨⟨⟨rfl, rfl, rfl, fun hi => ?_⟩, rfl, .inl ⟨rfl, rfl⟩⟩, rfl, rfl, rfl⟩
    exact hp.imp_right fun hp => ⟨hi, hp⟩
  · obtain ⟨q, hq⟩ := fetchRows_eq f s (l.plan o) l.reading limit
      ⟨{ o.view with position := p }, .start (l.plan o), l.interrupt⟩
    generalize fetchRows f s (l.plan o) l.reading limit
      ⟨{ o.view with position := p }, .start (l.plan o), l.interrupt⟩ = fetched at hq ⊢
    obtain ⟨e, d⟩ := fetched
    simp only at hq
    have hk : l.Keeps false { l.withState { o with view := d.view, scan := .scanning } with
        interrupt := d.interrupt } := by
      refine ⟨rfl, (congrArg Option.isSome h).symm, fun _ hs => ?_⟩
      obtain rfl := Option.some.inj hs
      refine ⟨o, h, ?_⟩
      rw [hq]
      exact o.keeps_scanning q
    simp only
    split <;> exact hk

theorem fetch_keeps (size : FetchSize) : l.Keeps false (l.fetch f s size).2.2 := by
  cases h : l.state with
  | none =>
    unfold fetch
    rw [h]
    exact .refl l
  | some o =>
    cases size with
    | rows n =>
      rw [fetch_rows f s h]
      exact fetchFrom_keeps f s h (.inr rfl) _ _ _
    | all =>
      rw [fetch_all f s h]
      exact fetchFrom_keeps f s h (.inl rfl) _ _ _

theorem seek_keeps (index : Int) : l.Keeps false (l.seek f s index).2 := by
  unfold seek
  simp only
  split
  · exact .refl l
  · cases h : l.state with
    | none => exact .refl l
    | some o =>
      unfold Faults.seekTo
      simp only
      cases f.seek with
      | some e => exact keeps_withState h (.refl o)
      | none =>
        simp only [View.seek]
        rw [if_neg ‹_›]
        exact keeps_withState h (o.keeps_scanning _)

theorem begin_keeps (force : Bool) : l.Keeps false (l.begin f s force).2.2.1 := by
  unfold begin
  cases h : l.state with
  | none => exact .refl l
  | some o =>
    have hc := f.source_beginOn s o.connection force
    simp only
    split
    · split
      all_goals
        rename_i heq
        rw [heq] at hc
        exact keeps_withState h (OpenLayer.keeps_connection hc)
    · exact .refl l

theorem finish_keeps (commit : Bool) : l.Keeps false (l.finish f s commit).2.2.1 := by
  unfold finish
  cases h : l.state with
  | none => exact .refl l
  | some o =>
    have hc := f.source_finishOn s o.connection commit
    simp only
    split
    all_goals
      rename_i heq
      rw [heq] at hc
      exact keeps_withState h (OpenLayer.keeps_connection hc)

/-! ### Writes -/

variable {l} in
theorem store_keeps {act : FeatureTable → View → Except Error Int × View × FeatureTable}
    (hact : View.Writes act) (h : l.state = some o) (fault : Option Error) (method : String) :
    l.Keeps false (l.store s o fault method act).2.1 ∧ s.Works q (l.store s o fault method act).2.2 := by
  obtain ⟨⟨e, he⟩, hw⟩ := Faults.write_eq s hact fault o.view
  unfold store
  split
  all_goals
    rename_i heq
    rw [heq] at he hw
    subst he
    exact ⟨keeps_withState h (o.keeps_lastError e _), hw⟩

theorem create_keeps (row : Row) :
    l.Keeps false (l.create f s row).2.1 ∧ s.Works q (l.create f s row).2.2 := by
  unfold create
  cases h : l.state with
  | none => exact ⟨.refl l, .refl⟩
  | some o =>
    simp only
    split
    · exact ⟨.refl l, .refl⟩
    · exact store_keeps s (View.writes_create _) h _ _

theorem replace_keeps (row : Row) :
    l.Keeps false (l.replace f s row).2.1 ∧ s.Works q (l.replace f s row).2.2 := by
  unfold replace
  cases h : l.state with
  | none => exact ⟨.refl l, .refl⟩
  | some o =>
    simp only
    split
    · exact ⟨.refl l, .refl⟩
    · split
      · exact ⟨.refl l, .refl⟩
      · exact store_keeps s (View.writes_replace _) h _ _

theorem upsert_keeps (row : Row) :
    l.Keeps false (l.upsert f s row).2.1 ∧ s.Works q (l.upsert f s row).2.2 := by
  unfold upsert
  cases h : l.state with
  | none => exact ⟨.refl l, .refl⟩
  | some o =>
    simp only
    split
    · exact ⟨.refl l, .refl⟩
    · split
      · exact ⟨.refl l, .refl⟩
      · exact store_keeps s (View.writes_upsert _) h _ _

theorem delete_keeps (fid : Int) :
    l.Keeps false (l.delete f s fid).2.2.1 ∧ s.Works q (l.delete f s fid).2.2.2 := by
  unfold delete
  cases h : l.state with
  | none => exact ⟨.refl l, .refl⟩
  | some o =>
    obtain ⟨⟨e, he⟩, hw⟩ := Faults.write_eq s (View.writes_delete fid) f.delete o.view
    simp only
    split
    · exact ⟨.refl l, .refl⟩
    · split
      all_goals
        rename_i heq
        rw [heq] at he hw
        subst he
        exact ⟨keeps_withState h (o.keeps_lastError e o.lastWrite), hw⟩

theorem works_setMetadata (items : OptionList) (domain : String) :
    s.Works q (l.setMetadata f s items domain).2 := by
  unfold setMetadata
  split
  · exact .refl
  · split
    · exact .refl
    · exact s.works_change (f := (·.setMetadata domain items)) (.relabel rfl rfl rfl)

theorem works_setMetadataItem (key value domain : String) :
    s.Works q (l.setMetadataItem f s key value domain).2 := by
  unfold setMetadataItem
  split
  · exact .refl
  · split
    · exact .refl
    · exact works_setMetadata f s l _ _

/-! ### Requests that set filters -/

theorem setPredicate_moves (text : String) : l.Moves false (l.setPredicate f s text).2.2 := by
  unfold setPredicate
  cases h : l.state with
  | none => exact (Keeps.refl l).moves
  | some o =>
    generalize (String.ofList (Text.trim text.toList)) = trimmed
    simp only
    generalize (if trimmed.isEmpty then none else some trimmed : Option String) = asked
    have hh := f.setPredicate_handle s 0 o.view asked
    have hv := f.setPredicate_ignored s 0 o.view asked
    split
    next v heq =>
      rw [heq] at hh hv
      refine moves_withState h ⟨⟨hh, rfl, rfl, fun _ => .inl ?_⟩, rfl, .inl ⟨rfl, hv⟩⟩
      rcases f.setPredicate_eq s 0 o.view asked with ⟨e, he⟩ | ⟨p, e, he⟩
      · rw [he] at heq
        cases heq
      · rw [heq] at he
        simp only at he
        rw [he]
    next v heq =>
      -- the predicate before is installed again
      have hp := f.setPredicate_position s 0 o.view asked
      rw [heq] at hh hv hp
      have hv := (f.setPredicate_ignored s 1 v o.filters.predicate?).trans hv
      have hp' := f.setPredicate_position s 1 v o.filters.predicate?
      refine moves_withState h ⟨⟨(f.setPredicate_handle s 1 v _).trans hh, rfl, rfl, fun hi => ?_⟩, rfl,
        .inl ⟨rfl, hv⟩⟩
      rcases hp' with hp' | hp'
      · exact .inl hp'
      · exact hp.imp hp'.trans fun hp => ⟨hi, hp'.trans hp⟩

theorem setSpatial_moves (filter : Option SpatialFilter) : l.Moves false (l.setSpatial filter).2 := by
  unfold setSpatial
  split
  · exact (Keeps.refl l).moves
  · rename_i h
    exact moves_withState h ⟨⟨rfl, rfl, rfl, fun _ => .inl rfl⟩, rfl, .inl ⟨rfl, rfl⟩⟩

theorem setSpatialWkt_cases (text : String) :
    (l.setSpatialWkt f text).2 = l ∨
      ∃ g, (l.setSpatialWkt f text).2 = (l.setSpatial (some g)).2 := by
  unfold setSpatialWkt
  split
  · exact .inl rfl
  · exact .inr ⟨_, rfl⟩

theorem setSpatialGeometry_cases (g : Geometry) :
    (l.setSpatialGeometry f g).2 = l ∨
      ∃ g', (l.setSpatialGeometry f g).2 = (l.setSpatial (some g')).2 := by
  unfold setSpatialGeometry
  split
  · exact .inl rfl
  · exact .inr ⟨_, rfl⟩

theorem setSpatialRect_cases (e : Envelope) :
    (l.setSpatialRect e).2 = l ∨ ∃ g, (l.setSpatialRect e).2 = (l.setSpatial (some g)).2 := by
  unfold setSpatialRect
  split
  · exact .inr ⟨_, rfl⟩
  · exact .inl rfl

theorem restoreFilters_moves : l.Moves false (l.restoreFilters f s).2 := by
  unfold restoreFilters
  cases h : l.state with
  | none => exact (Keeps.refl l).moves
  | some o =>
    have hh := f.setPredicate_handle s 1 o.view o.filters.predicate?
    have hv := f.setPredicate_ignored s 1 o.view o.filters.predicate?
    simp only
    split
    all_goals
      exact moves_withState h ⟨⟨hh, rfl, rfl, fun _ => .inl rfl⟩, rfl, .inl ⟨rfl, hv⟩⟩

theorem lookup_moves (fid : Int) : l.Moves false (l.lookup f s fid).2.2 := by
  unfold lookup
  cases h : l.state with
  | none => exact (Keeps.refl l).moves
  | some o =>
    simp only
    generalize fidPredicate _ fid = text
    -- the view without its spatial filter is at its start already
    have hp : (f.setPredicate s 0 (o.view.setSpatial none) (some text)).2.position = none :=
      (f.setPredicate_position s 0 _ _).elim id id
    have hset : l.Moves false (l.withState
        { o with view := (f.setPredicate s 0 (o.view.setSpatial none) (some text)).2 }) :=
      moves_withState h ⟨⟨f.setPredicate_handle s 0 _ _, rfl, rfl, fun _ => .inl hp⟩, rfl,
        .inl ⟨rfl, f.setPredicate_ignored s 0 _ _⟩⟩
    split
    · exact hset.trans (restoreFilters_moves f s _)
    · exact (hset.trans (fetch_keeps f s _ (.rows 1)).moves).trans (restoreFilters_moves f s _)

/-! ### Opening, closing, and transactions -/

variable {l} in
theorem openView_ok {c c' : Connection} {spatial : Option Geometry} {v : View} {filters : Filters}
    {s' : Store} (h : l.openView f s c spatial = (.ok (v, filters), c', s')) :
    v.New s s' ∧ (filters.predicate = "" ∧ v.predicate = none) ∧
      (l.source.isQuery = false → v.spatial = filters.spatial) ∧
      (l.source.isQuery = true → v.writable = false) ∧
      c' = c ∧ v.source = c.source ∧ (v.writable = true → c.access = .readWrite) := by
  unfold openView at h
  cases hsource : l.source with
  | name name =>
    rw [hsource] at h
    simp only at h
    split at h
    · cases h
    · rename_i u hu
      have hu := Faults.layerByName_ok hu
      have hnew := View.New.layerByName hu
      obtain ⟨-, hmake⟩ := Store.layerByName_ok hu
      split at h
      · cases h
        refine ⟨hnew.congr rfl rfl, ⟨rfl, ?_⟩, fun _ => rfl, nofun, rfl, ?_⟩
        all_goals rw [hmake]
        · rfl
        · exact ⟨rfl, of_decide_eq_true⟩
      · cases h
        refine ⟨hnew, ⟨rfl, ?_⟩, fun _ => ?_, nofun, rfl, ?_⟩
        all_goals rw [hmake]
        · rfl
        · rfl
        · exact ⟨rfl, of_decide_eq_true⟩
  | query text =>
    rw [hsource] at h
    simp only at h
    rcases f.runQuery_cases s c text spatial l.options.dialect with ⟨-, hne⟩ | ⟨hrest, hval⟩
    · split at h
      · cases h
      · cases h
      · rename_i hq
        exact absurd (congrArg (·.1) hq) (hne _)
    · split at h
      · cases h
      · cases h
      · rename_i hq
        cases h
        rw [hq] at hrest hval
        cases hans : (s.query c text spatial l.options.dialect).1 with
        | error e =>
          rw [hans] at hval
          cases hval
        | ok u =>
          rw [hans] at hval
          cases hval
          have hnew := View.New.query (Prod.ext hans hrest.symm)
          rcases s.query_cases c text spatial l.options.dialect with ⟨e, c₁, hc, -⟩ | ⟨i, -, w, hc⟩
          · rw [hc] at hans
            cases hans
          · rw [hc] at hans hrest
            cases hans
            cases hrest
            exact ⟨hnew, ⟨rfl, rfl⟩, nofun, fun _ => rfl, rfl, rfl, nofun⟩

variable {l} in
theorem openState_ok {access : Access} {ws : List Warning} {s' : Store}
    (h : l.openState f s access = (.ok o, ws, s')) : o.Fresh s s' l.source := by
  unfold openState at h
  split at h
  · cases h
  · cases h
  · rename_i c hc
    split at h
    · cases h
    · split at h
      · cases h
      · rename_i v filters c' _ heq
        cases h
        obtain ⟨hnew, hunfiltered, hspatial, hreadOnly, rfl, hsource, haccess⟩ := openView_ok f s heq
        exact ⟨rfl, rfl, hnew.congr rfl rfl, rfl, f.bare_inspect _ hnew.ignored _,
          f.shown_inspect _ hnew.ignored _, hunfiltered, hspatial, hreadOnly, hsource,
          fun hw => (Faults.connect_ok hc).2.symm.trans (haccess hw)⟩

theorem openView_store (c : Connection) (spatial : Option Geometry) :
    (l.openView f s c spatial).2.2 = s ∨ ∃ text, l.source = .query text ∧
      (l.openView f s c spatial).2.2 = (s.query c text spatial l.options.dialect).2.2 := by
  unfold openView
  split
  · split
    · exact .inl rfl
    · split <;> exact .inl rfl
  · rename_i text hsource
    have hq : (f.runQuery s c text spatial l.options.dialect).2.2 = s ∨
        (f.runQuery s c text spatial l.options.dialect).2.2 =
          (s.query c text spatial l.options.dialect).2.2 := by
      rcases f.runQuery_cases s c text spatial l.options.dialect with ⟨h, -⟩ | ⟨h, -⟩
      · exact .inl (congrArg (·.2) h)
      · exact .inr (congrArg (·.2) h)
    split
    all_goals
      rename_i heq
      rw [heq] at hq
      exact hq.imp_right fun hq => ⟨text, hsource, hq⟩

theorem openState_store (access : Access) :
    (l.openState f s access).2.2 = s ∨ ∃ c text spatial, l.source = .query text ∧
      (l.openState f s access).2.2 = (s.query c text spatial l.options.dialect).2.2 := by
  unfold openState
  split
  · exact .inl rfl
  · exact .inl rfl
  · split
    · exact .inl rfl
    · rename_i c _ _ spatial _
      have hview := openView_store f s l c spatial
      split
      all_goals
        rename_i heq
        rw [heq] at hview
        rcases hview with hview | ⟨text, hsource, hview⟩
        · exact .inl hview
        · exact .inr ⟨c, text, spatial, hsource, hview⟩

theorem works_openState (access : Access) :
    s.Works (l.source.isQuery = true) (l.openState f s access).2.2 := by
  rcases openState_store f s l access with h | ⟨c, text, spatial, hsource, h⟩
  · exact h.symm.subst .refl
  · rw [h]
    exact s.works_query (by rw [hsource]; rfl) c text spatial _

theorem works_close : s.Works q (l.close s).2 := by
  unfold close
  split
  · exact .refl
  · split
    · exact s.works_release _
    · exact .refl

theorem close_state : (l.close s).1.state = none ∧ (l.close s).1.source = l.source := by
  unfold close
  split
  · rename_i h
    exact ⟨h, rfl⟩
  · exact ⟨rfl, rfl⟩

theorem tables_close : (l.close s).2.tables = s.tables := by
  unfold close
  split
  · rfl
  · split <;> rfl

theorem works_reopen (access : Access) :
    s.Works (l.source.isQuery = true) (l.reopen f s access).2.2.2 := by
  unfold reopen
  have hc : s.Works (l.source.isQuery = true) (l.close s).2 := works_close s l
  have hsource := (close_state s l).2
  generalize l.close s = closed at hc hsource ⊢
  obtain ⟨l₁, s₁⟩ := closed
  simp only at hsource
  rw [← hsource] at hc ⊢
  have ho := works_openState f s₁ { l₁ with options := { l₁.options with access } } access
  simp only
  split
  all_goals
    rename_i heq
    rw [heq] at ho
    exact hc.trans ho

theorem reopen_state (access : Access) :
    (l.reopen f s access).2.2.1.source = l.source ∧
      ∀ o', (l.reopen f s access).2.2.1.state = some o' →
        o'.Fresh s (l.reopen f s access).2.2.2 l.source := by
  unfold reopen
  have hc : s.Works False (l.close s).2 := works_close s l
  obtain ⟨hstate, hsource⟩ := close_state s l
  generalize l.close s = closed at hc hstate hsource ⊢
  obtain ⟨l₁, s₁⟩ := closed
  simp only at hstate hsource ⊢
  split
  next o ws s₂ heq =>
    refine ⟨hsource, fun o' ho' => ?_⟩
    obtain rfl := Option.some.inj ho'
    have hf := openState_ok f s₁ heq
    exact ⟨hf.idle, hf.atStart, hf.isNew.after_works hc, hf.ignored, hf.schema, hf.shown,
      hf.unfiltered, fun hq => hf.spatial (hsource ▸ hq), fun hq => hf.readOnly (hsource ▸ hq),
      hf.matched, hf.permitted⟩
  next =>
    refine ⟨hsource, fun o' ho' => ?_⟩
    rw [hstate] at ho'
    cases ho'

variable {f s l} in
theorem reopen_ok {access : Access} (h : (l.reopen f s access).2.2.1.state = some o) :
    (l.reopen f s access).1 = .ok () := by
  unfold reopen at h ⊢
  obtain ⟨hstate, -⟩ := close_state s l
  generalize l.close s = closed at h hstate ⊢
  obtain ⟨l₁, s₁⟩ := closed
  simp only at h hstate ⊢
  split at h
  · rfl
  · cases hstate.symm.trans h

theorem works_openOn {f : Faults} {s : Store} {dataSource : String} {source : LayerSource}
    {options : OpenOptions} {l : Except Error Layer} {ws : List Warning} {s' : Store}
    (h : openOn f s dataSource source options = (l, ws, s')) :
    s.Works (source.isQuery = true) s' := by
  have hs : (openOn f s dataSource source options).2.2 = s' := by rw [h]
  rw [← hs]
  exact works_openState f s ⟨dataSource, source, options, .default, none, none⟩ options.access

theorem openOn_source {dataSource : String} {source : LayerSource} {options : OpenOptions}
    {l : Layer} {ws : List Warning} {s' : Store} (h : openOn f s dataSource source options = (.ok l, ws, s')) :
    l.source = source := by
  cases hopen :
    (openState f s ⟨dataSource, source, options, .default, none, none⟩ options.access).1 with
  | error e => simp [openOn, hopen, Except.map] at h
  | ok o =>
    simp only [openOn, hopen, Except.map, Prod.mk.injEq, Except.ok.injEq] at h
    obtain ⟨rfl, -, -⟩ := h
    rfl

theorem openOn_state {dataSource : String} {source : LayerSource} {options : OpenOptions}
    {l : Layer} {ws : List Warning} {s' : Store} (h : openOn f s dataSource source options = (.ok l, ws, s'))
    {o : OpenLayer} (ho : l.state = some o) : o.Fresh s s' l.source := by
  cases hopen :
    (openState f s ⟨dataSource, source, options, .default, none, none⟩ options.access).1 with
  | error e => simp [openOn, hopen, Except.map] at h
  | ok o₁ =>
    simp only [openOn, hopen, Except.map, Prod.mk.injEq, Except.ok.injEq] at h
    obtain ⟨rfl, rfl, rfl⟩ := h
    obtain rfl := Option.some.inj ho
    exact openState_ok f s (Prod.ext hopen rfl)

theorem begin_cases (force : Bool) :
    ((l.begin f s force).1 = true ∧ ∃ o, l.state = some o ∧
        s.Turn o.connection.source (.begin force) (l.begin f s force).2.2.2) ∨
      ((l.begin f s force).1 = false ∧ (l.begin f s force).2.2.2 = s) := by
  unfold begin
  cases h : l.state with
  | none => exact .inr ⟨rfl, rfl⟩
  | some o =>
    simp only
    split
    · rcases f.beginOn_cases s o.connection force with ⟨-, e, heq⟩ | ha
      · rw [heq]
        exact .inr ⟨rfl, rfl⟩
      · generalize f.beginOn s o.connection force = out at ha ⊢
        cases ha with
        | refused => exact .inr ⟨rfl, rfl⟩
        | granted ht => exact .inl ⟨rfl, o, rfl, ht⟩
    · exact .inr ⟨rfl, rfl⟩

theorem finish_cases (commit : Bool) :
    ((l.finish f s commit).1 = true ∧ ∃ o, l.state = some o ∧
        s.Turn o.connection.source (.ending commit) (l.finish f s commit).2.2.2) ∨
      ((l.finish f s commit).1 = false ∧ (l.finish f s commit).2.2.2 = s ∧
        (f = .none → ∀ o, l.state = some o → (s.source o.connection.source).snapshot = none)) := by
  unfold finish
  cases h : l.state with
  | none => exact .inr ⟨rfl, rfl, fun _ _ ho => nomatch ho⟩
  | some o =>
    simp only
    rcases f.finishOn_cases s o.connection commit with ⟨hf, e, heq⟩ | ha
    · rw [heq]
      exact .inr ⟨rfl, rfl, fun hn => absurd hn hf⟩
    · generalize (if commit then f.commitOn s o.connection else f.rollbackOn s o.connection) = out
        at ha ⊢
      cases ha with
      | refused _ hn =>
        refine .inr ⟨rfl, rfl, fun _ o' ho' => ?_⟩
        obtain rfl := Option.some.inj ho'
        exact hn (by cases commit <;> rfl)
      | granted ht => exact .inl ⟨rfl, o, rfl, ht⟩

end Layer

/-! ### All requests -/

def LayerRequest.control? : LayerRequest → Option Store.Control
  | .begin force => some (.begin force)
  | .commit => some .commit
  | .rollback => some .rollback
  | _ => none

def LayerRequest.refilters : LayerRequest → Bool
  | .reopen _ | .close | .setPredicate _ | .setSpatial _ | .setSpatialWkt _ | .setSpatialGeometry _
  | .setSpatialRect _ | .lookup _ => true
  | _ => false

def LayerRequest.closes : LayerRequest → Bool
  | .reopen _ | .close => true
  | _ => false

def LayerRequest.ignores : LayerRequest → Bool
  | .setIgnored _ | .setSelected _ => true
  | _ => false

namespace Layer

variable (f : Faults) (s : Store) (l : Layer)

theorem ask_keeps {r : LayerRequest} (h : r.refilters = false) :
    l.Keeps r.ignores (l.ask f s r).layer := by
  cases r with
  | reopen | close | setPredicate | setSpatial | setSpatialWkt | setSpatialGeometry
  | setSpatialRect | lookup => cases h
  | configure | setInterrupt => exact keeps_of_state_eq rfl rfl
  | setMetadata | setMetadataItem | sync => exact .refl l
  | extent force => exact extent_keeps f s l force
  | setIgnored names => exact setIgnored_keeps f s l names
  | setSelected names => exact setSelected_keeps f s l names
  | reset => exact reset_keeps l
  | next => exact next_keeps f s l
  | fetch size => exact fetch_keeps f s l size
  | seek index => exact seek_keeps f s l index
  | create row => exact (create_keeps (q := False) f s l row).1
  | replace row => exact (replace_keeps (q := False) f s l row).1
  | upsert row => exact (upsert_keeps (q := False) f s l row).1
  | delete fid => exact (delete_keeps (q := False) f s l fid).1
  | begin force => exact begin_keeps f s l force
  | commit => exact finish_keeps f s l true
  | rollback => exact finish_keeps f s l false

theorem ask_moves {r : LayerRequest} (h : r.closes = false) :
    l.Moves r.ignores (l.ask f s r).layer := by
  have hspatial : ∀ (l' : Layer), (l' = l ∨ ∃ g, l' = (l.setSpatial (some g)).2) →
      l.Moves false l' := by
    rintro l' (rfl | ⟨g, rfl⟩)
    · exact (Keeps.refl l').moves
    · exact setSpatial_moves l _
  cases hr : r.refilters with
  | false => exact (ask_keeps f s l hr).moves
  | true =>
    cases r with
    | reopen | close => cases h
    | setPredicate text => exact setPredicate_moves f s l text
    | setSpatial g => exact setSpatial_moves l _
    | setSpatialWkt text => exact hspatial _ (setSpatialWkt_cases f l text)
    | setSpatialGeometry g => exact hspatial _ (setSpatialGeometry_cases f l g)
    | setSpatialRect e => exact hspatial _ (setSpatialRect_cases l e)
    | lookup fid => exact lookup_moves f s l fid
    | _ => cases hr

theorem ask_fresh {r : LayerRequest} (hc : r.closes = true) {o' : OpenLayer}
    (h : (l.ask f s r).layer.state = some o') : o'.Fresh s (l.ask f s r).store l.source := by
  cases r with
  | reopen access => exact (reopen_state f s l access).2 o' h
  | close => cases (close_state s l).1.symm.trans h
  | _ => cases hc

theorem ask_state {r : LayerRequest} {o' : OpenLayer} (h : (l.ask f s r).layer.state = some o') :
    (∃ o, l.state = some o ∧ o.Moves r.ignores o') ∨
      o'.Fresh s (l.ask f s r).store l.source := by
  cases hc : r.closes with
  | false => exact .inl ((ask_moves f s l hc).state o' h)
  | true => exact .inr (ask_fresh f s l hc h)

theorem ask_source (r : LayerRequest) : (l.ask f s r).layer.source = l.source := by
  cases hc : r.closes with
  | false => exact (ask_moves f s l hc).source
  | true =>
    cases r with
    | reopen access => exact (reopen_state f s l access).1
    | close => exact (close_state s l).2
    | _ => cases hc

/-- Requests but those about transactions work on the store. Only a layer that is open on a query
may run it again. -/
theorem ask_works {r : LayerRequest} (h : r.control? = none) :
    s.Works (l.source.isQuery = true) (l.ask f s r).store := by
  cases r with
  | begin | commit | rollback => cases h
  | reopen access => exact works_reopen f s l access
  | close => exact works_close s l
  | setMetadata items domain => exact works_setMetadata f s l items domain
  | setMetadataItem key value domain => exact works_setMetadataItem f s l key value domain
  | create row => exact (create_keeps f s l row).2
  | replace row => exact (replace_keeps f s l row).2
  | upsert row => exact (upsert_keeps f s l row).2
  | delete fid => exact (delete_keeps f s l fid).2
  | configure | setInterrupt | extent | setPredicate | setSpatial | setSpatialWkt
  | setSpatialGeometry | setSpatialRect | setIgnored | setSelected | reset | next | fetch | seek
  | lookup | sync => exact .refl

theorem ask_control {r : LayerRequest} {c : Store.Control} (h : r.control? = some c) :
    ((l.ask f s r).value = .ok (.flag true) ∧ ∃ o, l.state = some o ∧
        s.Turn o.connection.source c (l.ask f s r).store) ∨
      ((l.ask f s r).value = .ok (.flag false) ∧ (l.ask f s r).store = s ∧
        (f = .none → c.ends = true → ∀ o, l.state = some o →
          (s.source o.connection.source).snapshot = none)) := by
  cases r with
  | begin force =>
    obtain rfl := Option.some.inj h
    rcases begin_cases f s l force with ⟨hv, ho⟩ | ⟨hv, hs⟩
    · exact .inl ⟨congrArg (fun b => Except.ok (Reply.flag b)) hv, ho⟩
    · exact .inr ⟨congrArg (fun b => Except.ok (Reply.flag b)) hv, hs, fun _ => nofun⟩
  | commit =>
    obtain rfl := Option.some.inj h
    rcases finish_cases f s l true with ⟨hv, ho⟩ | ⟨hv, hs, hn⟩
    · exact .inl ⟨congrArg (fun b => Except.ok (Reply.flag b)) hv, ho⟩
    · exact .inr ⟨congrArg (fun b => Except.ok (Reply.flag b)) hv, hs, fun hf _ => hn hf⟩
  | rollback =>
    obtain rfl := Option.some.inj h
    rcases finish_cases f s l false with ⟨hv, ho⟩ | ⟨hv, hs, hn⟩
    · exact .inl ⟨congrArg (fun b => Except.ok (Reply.flag b)) hv, ho⟩
    · exact .inr ⟨congrArg (fun b => Except.ok (Reply.flag b)) hv, hs, fun hf _ => hn hf⟩
  | _ => cases h

/-! ### Overlays -/

variable {l} in
theorem refreshSchema_state {o' : OpenLayer} (h : (l.refreshSchema f s).1.state = some o') :
    ∃ o fieldNames, l.state = some o ∧
      o' = { o with schema := (f.inspect s o.view l.reading.unnamedGeometry).1, fieldNames } := by
  unfold refreshSchema at h
  split at h
  · rename_i hl
    rw [hl] at h
    cases h
  · rename_i o hl
    obtain rfl := Option.some.inj h
    exact ⟨o, _, hl, rfl⟩

theorem refreshSchema_source : (l.refreshSchema f s).1.source = l.source := by
  unfold refreshSchema
  split <;> rfl

/-- An overlay leaves the filters of its three layers alone, and works on the store. When it succeeds
it reads the schema of its result again. -/
theorem overlay_keeps {q : Prop} (A : RegionAlgebra) (kind : OverlayKind)
    (input method result : Layer) (o : Overlay.Options) (answer : Nat → Bool) :
    let out := overlay f A kind s input method result o answer
    input.Keeps false out.input ∧ method.Keeps false out.method ∧
      (result.Keeps false out.result ∨
        ∃ l₁, result.Keeps false l₁ ∧ out.value = .ok () ∧
          out.result = (l₁.refreshSchema f out.store).1) ∧
      s.Works q out.store := by
  unfold overlay
  split
  · rename_i i m r hi hm hr
    obtain ⟨⟨e₁, he₁⟩, ⟨e₂, he₂⟩, hw⟩ := f.runOverlay_spec s A kind i.view m.view r.view o answer
    generalize f.runOverlay s A kind i.view m.view r.view o answer = out at he₁ he₂ hw ⊢
    have hin : input.Keeps false (input.withState { i with view := out.input.rewind, scan := .idle }) := by
      rw [he₁]
      exact keeps_withState hi (i.keeps_rewind e₁)
    have hme : method.Keeps false (method.withState { m with view := m.view.rewind, scan := .idle }) :=
      keeps_withState hm (m.keeps_rewind _)
    have hre : result.Keeps false
        (result.withState { r with view := out.result.rewind, scan := .idle }) := by
      rw [he₂]
      exact keeps_withState hr (r.keeps_rewind e₂)
    simp only
    split
    · exact ⟨hin, hme, .inr ⟨_, hre, rfl, rfl⟩, hw⟩
    · exact ⟨hin, hme, .inl hre, hw⟩
  · exact ⟨.refl _, .refl _, .inl (.refl _), .refl⟩

end Layer

end FeatureLayer
