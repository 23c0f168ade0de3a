import FeatureLayer.Proofs.Workspace.Filters
/-!
The spatial filter that a layer on a query is opened with. It is given to the result of the query and
is not among the filters that the layer keeps, so that it is in force until the first look for a
record, which installs the kept filters again.
-/

namespace FeatureLayer

def LayerRequest.respaces : LayerRequest → Bool
  | .reopen _ | .setSpatial _ | .setSpatialWkt _ | .setSpatialGeometry _ | .setSpatialRect _ => true
  | _ => false

def LayerRequest.looksUp : LayerRequest → Bool
  | .lookup _ => true
  | _ => false

def Operation.respaces (n : String) : Operation → Bool
  | .openLayer _ _ _ m => m = n
  | .layer m r => m = n && r.respaces
  | _ => false

def Operation.looksUp (n : String) : Operation → Bool
  | .layer m r => m = n && r.looksUp
  | _ => false

namespace Layer

def RunsUnder (spatial : Option SpatialFilter) (l : Layer) : Prop :=
  ∀ o, l.state = some o → o.filters.spatial = none ∧ o.view.spatial = spatial

variable {f : Faults} {s : Store} {l l' : Layer} {spatial : Option SpatialFilter}

theorem RunsUnder.keeps {told : Bool} (h : l.RunsUnder spatial) (hk : l.Keeps told l') : l'.RunsUnder spatial := by
  intro o' ho'
  obtain ⟨o, ho, hk⟩ := hk.state o' ho'
  rw [hk.filters, hk.spatial]
  exact h o ho

theorem RunsUnder.refreshSchema (h : l.RunsUnder spatial) :
    (l.refreshSchema f s).1.RunsUnder spatial := by
  intro o' ho'
  obtain ⟨o, _, ho, rfl⟩ := refreshSchema_state f s ho'
  exact h o ho

theorem RunsUnder.setPredicate (h : l.RunsUnder spatial) (text : String) :
    (l.setPredicate f s text).2.2.RunsUnder spatial := by
  unfold Layer.setPredicate
  cases ho : l.state with
  | none => exact h
  | some o =>
    obtain ⟨hkept, hview⟩ := h o ho
    generalize (String.ofList (Text.trim text.toList)) = trimmed
    simp only
    have hset := f.setPredicate_spatial s 0 o.view (if trimmed.isEmpty then none else some trimmed)
    split
    next view heq =>
      rw [heq] at hset
      intro o' ho'
      obtain rfl := Option.some.inj ho'
      exact ⟨hkept, hset.trans hview⟩
    next e view heq =>
      rw [heq] at hset
      intro o' ho'
      obtain rfl := Option.some.inj ho'
      exact ⟨hkept, (f.setPredicate_spatial s 1 view _).trans (hset.trans hview)⟩

theorem RunsUnder.restoreFilters (h : l.RunsUnder none) :
    (l.restoreFilters f s).2.RunsUnder none := by
  unfold Layer.restoreFilters
  cases ho : l.state with
  | none =>
    intro o' ho'
    cases ho.symm.trans ho'
  | some o =>
    obtain ⟨hkept, hview⟩ := h o ho
    have hset := f.setPredicate_spatial s 1 o.view o.filters.predicate?
    simp only
    split
    · intro o' ho'
      obtain rfl := Option.some.inj ho'
      exact ⟨hkept, hkept⟩
    · intro o' ho'
      obtain rfl := Option.some.inj ho'
      exact ⟨hkept, hset.trans hview⟩

theorem RunsUnder.lookup (h : l.RunsUnder spatial) (fid : Int) :
    (l.lookup f s fid).2.2.RunsUnder none := by
  unfold Layer.lookup
  cases ho : l.state with
  | none =>
    intro o' ho'
    cases ho.symm.trans ho'
  | some o =>
    simp only
    generalize fidPredicate _ fid = text
    -- the record is looked for under no spatial filter
    have hset : (l.withState { o with
        view := (f.setPredicate s 0 (o.view.setSpatial none) (some text)).2 }).RunsUnder none := by
      intro o' ho'
      obtain rfl := Option.some.inj ho'
      exact ⟨(h o ho).1, f.setPredicate_spatial s 0 _ _⟩
    split
    · exact hset.restoreFilters
    · exact (hset.keeps (fetch_keeps f s _ (.rows 1))).restoreFilters

theorem RunsUnder.ask (h : l.RunsUnder spatial) {r : LayerRequest} (hr : r.respaces = false) :
    (l.ask f s r).layer.RunsUnder (if r.looksUp then none else spatial) := by
  cases hkeeps : r.refilters with
  | false =>
    have hno : r.looksUp = false := by cases r <;> first | rfl | cases hkeeps
    rw [hno]
    exact h.keeps (ask_keeps f s l hkeeps)
  | true =>
    cases r with
    | reopen | setSpatial | setSpatialWkt | setSpatialGeometry | setSpatialRect => cases hr
    | close =>
      intro o' ho'
      cases (close_state s l).1.symm.trans ho'
    | setPredicate text => exact h.setPredicate text
    | lookup fid => exact h.lookup fid
    | _ => cases hkeeps

theorem openView_spatial {c c' : Connection} {asked : Option Geometry} {v : View}
    {filters : Filters} {s' : Store} (hq : l.source.isQuery = true)
    (h : l.openView f s c asked = (.ok (v, filters), c', s')) :
    filters.spatial = none ∧ v.spatial = asked.map .geometry := by
  unfold openView at h
  cases hsource : l.source with
  | name name =>
    rw [hsource] at hq
    cases hq
  | query text =>
    rw [hsource] at h
    simp only at h
    have hrun := f.runQuery_cases s c text asked l.options.dialect
    split at h
    · cases h
    · cases h
    · rename_i heq
      cases h
      rw [heq] at hrun
      rcases hrun with ⟨-, hne⟩ | ⟨-, hval⟩
      · exact absurd rfl (hne _)
      · refine ⟨rfl, ?_⟩
        rcases s.query_cases c text asked l.options.dialect with ⟨e, c₁, hc, -⟩ | ⟨i, -, v₁, hc⟩
        · rw [hc] at hval
          cases hval
        · rw [hc] at hval
          cases hval
          rfl

theorem openState_spatial {access : Access} {o : OpenLayer} {ws : List Warning} {s' : Store}
    {wkt : String} {g : Geometry} (hq : l.source.isQuery = true)
    (hwkt : l.options.spatialFilter = some wkt) (hg : f.codec.ofWkt wkt = .ok g)
    (h : l.openState f s access = (.ok o, ws, s')) :
    o.filters.spatial = none ∧ o.view.spatial = some (.geometry g) := by
  have hread : l.options.spatialFilter.mapM f.codec.ofWkt = .ok (some g) := by
    rw [hwkt]
    show (f.codec.ofWkt wkt).map some = .ok (some g)
    rw [hg]
    rfl
  unfold openState at h
  split at h
  · cases h
  · cases h
  · rw [hread] at h
    simp only at h
    split at h
    · cases h
    · rename_i heq
      cases h
      exact openView_spatial hq heq

theorem openOn_runsUnder {dataSource text wkt : String} {options : OpenOptions} {g : Geometry}
    {ws : List Warning} {s' : Store} (hwkt : options.spatialFilter = some wkt)
    (hg : f.codec.ofWkt wkt = .ok g)
    (h : openOn f s dataSource (.query text) options = (.ok l, ws, s')) :
    l.RunsUnder (some (.geometry g)) := by
  intro o ho
  cases hopen : (openState f s ⟨dataSource, .query text, options, .default, none, none⟩
      options.access).1 with
  | error e => simp [openOn, hopen, Except.map] at h
  | ok o₁ =>
    simp only [openOn, hopen, Except.map, Prod.mk.injEq, Except.ok.injEq] at h
    obtain ⟨rfl, -, -⟩ := h
    obtain rfl := Option.some.inj ho
    exact openState_spatial rfl hwkt hg (Prod.ext hopen rfl)

end Layer

namespace Workspace

def RunsUnder (n : String) (spatial : Option SpatialFilter) (w : Workspace) : Prop :=
  ∀ l, w.layer? n = some l → l.RunsUnder spatial

variable {f : Faults} {A : RegionAlgebra} {w : Workspace} {n : String}
  {spatial : Option SpatialFilter}

theorem RunsUnder.step (h : w.RunsUnder n spatial) {op : Operation} (hop : op.respaces n = false) :
    (w.step f A op).RunsUnder n (if op.looksUp n then none else spatial) := by
  intro l hl
  cases hlook : op.looksUp n with
  | true =>
    cases op with
    | layer m r =>
      simp only [Operation.looksUp, Bool.and_eq_true, decide_eq_true_eq] at hlook
      obtain ⟨rfl, hr⟩ := hlook
      rw [layer?_step_layer] at hl
      obtain ⟨l₀, hl₀, rfl⟩ := Option.map_eq_some_iff.mp hl
      have hask := (h l₀ hl₀).ask (f := f) (s := w.store) (r := r) (by simpa [Operation.respaces] using hop)
      rw [hr] at hask
      exact hask
    | _ => cases hlook
  | false =>
    rcases w.step_cases f A op with hs | ⟨a, he⟩
    · rw [hs] at hl
      exact h l hl
    · cases he.layerOrigin hl with
      | kept hl₀ hk => exact (h _ hl₀).keeps hk
      | refreshed hl₀ hk => exact ((h _ hl₀).keeps hk).refreshSchema
      | @asked l₀ r hl₀ ho =>
        subst ho
        simp only [Operation.respaces, Operation.looksUp, decide_true, Bool.true_and] at hop hlook
        have hask := (h l₀ hl₀).ask (f := f) (s := w.store) hop
        rw [hlook] at hask
        exact hask
      | opened ho =>
        subst ho
        simp [Operation.respaces] at hop

theorem RunsUnder.run (h : w.RunsUnder n spatial) {ops : List Operation}
    (hops : ∀ op ∈ ops, op.respaces n = false) :
    (w.run f A ops).RunsUnder n (if ops.any (·.looksUp n) then none else spatial) := by
  induction ops generalizing w spatial with
  | nil => exact h
  | cons op ops ih =>
    have hstep := h.step (f := f) (A := A) (hops op List.mem_cons_self)
    have hrun := ih hstep fun op' h' => hops op' (List.mem_cons_of_mem op h')
    rw [List.any_cons]
    cases hlook : op.looksUp n with
    | true =>
      rw [hlook, if_pos rfl, ite_self] at hrun
      exact hrun
    | false =>
      rw [hlook] at hrun
      exact hrun

/-- A layer that is opened on a query with a spatial filter reads the records that meet it, until a
record is looked for by its identifier; from then on it reads those that do not meet it too. -/
theorem opening_filter_until_lookup (A : RegionAlgebra) (w : Workspace) (d text n wkt : String)
    (options : OpenOptions) (g : Geometry) (ops : List Operation)
    (hwkt : options.spatialFilter = some wkt) (hg : GeometryCodec.plain.ofWkt wkt = .ok g)
    (hopen : w.grants .none A (.openLayer d (.query text) options n) = true)
    (hops : ∀ op ∈ ops, op.respaces n = false) :
    let w' := w.run .none A (.openLayer d (.query text) options n :: ops)
    let spatial := if ops.any (·.looksUp n) then none else some (SpatialFilter.geometry g)
    ∀ l o, w'.layer? n = some l → l.state = some o →
      let t := w'.store.table o.view.table
      let kept := t.records.values.filter fun r =>
        o.view.predicate.all (·.holds (r.fid.getD Record.missingFid) r.data) &&
          spatial.all fun filter => (r.geometries.head?.join).any filter.admits
      o.filters.spatial = none ∧ o.view.spatial = spatial ∧
        (∀ table, (l.fetch .none w'.store .all).1 = .ok table →
          table.Shows (l.plan o) l.reading (kept.map o.view.project)) ∧
        (l.interrupt = none →
          (l.plan o).fits (Faults.none.countOf w'.store o.view true).toNat = true →
          ∃ table, (l.fetch .none w'.store .all).1 = .ok table) := by
  have hopened : (w.step .none A (.openLayer d (.query text) options n)).RunsUnder n
      (some (.geometry g)) := by
    intro l hl
    obtain ⟨l₁, ws, s, hon, hl₁⟩ := layer?_step_openLayer hopen
    obtain rfl := Option.some.inj (hl₁.symm.trans hl)
    exact Layer.openOn_runsUnder (f := .none) hwkt hg hon
  have hrun := hopened.run (f := .none) (A := A) hops
  intro w' spatial l o hl ho t kept
  obtain ⟨hkept, hview⟩ := hrun l hl o ho
  refine ⟨hkept, hview, fun table htable => ?_, Layer.fetch_all_ok ho⟩
  have hselected : kept = o.view.selected t := by
    refine List.filter_congr fun r _ => ?_
    show _ = o.view.admits r
    rw [View.admits, hview]
  rw [hselected]
  exact Layer.shows_of_fetch_all ho htable

def insideAndOutside : List Operation :=
  let point (n : Int) : Geometry := .point ⟨Binary.ofInt n, Binary.ofInt n⟩
  [.create "d" (some "c"),
    .createLayer "c" "t" ⟨[], [⟨"", "Point", true, false, none⟩]⟩ (some "v"),
    .view "v" (.create ⟨none, [], [some (point 1)]⟩), .view "v" (.create ⟨none, [], [some (point 9)]⟩)]

def squareOptions : OpenOptions :=
  ⟨.readOnly, .empty, some "POLYGON ((0 0,2 0,2 2,0 2,0 0))", none⟩

theorem opening_filter_until_lookup_of_square :
    let w := (empty.run .none .exact insideAndOutside).run .none .exact
      [.openLayer "d" (.query "SELECT * FROM t") squareOptions "q", .layer "q" .next,
        .layer "q" (.fetch .all)]
    ∃ l o g, w.layer? "q" = some l ∧ l.state = some o ∧ o.view.spatial = some (.geometry g) ∧
      ∃ table, (l.fetch .none w.store .all).1 = .ok table ∧ table.numRows = 1 := by
  intro w
  obtain ⟨g, hg⟩ : ∃ g, GeometryCodec.plain.ofWkt "POLYGON ((0 0,2 0,2 2,0 2,0 0))" = .ok g := by
    have hread : (GeometryCodec.plain.ofWkt "POLYGON ((0 0,2 0,2 2,0 2,0 0))").toOption.isSome = true := by
      decide +kernel
    generalize GeometryCodec.plain.ofWkt _ = read at hread ⊢
    cases read with
    | error => cases hread
    | ok g => exact ⟨g, rfl⟩
  have hopen : ((w.layer? "q").bind fun l => l.state.map fun o => (l, o)).any (fun e =>
      e.1.interrupt.isNone &&
        (e.1.plan e.2).fits (Faults.none.countOf w.store e.2.view true).toNat &&
        (e.1.fetch .none w.store .all).1.toOption.any (·.numRows = 1)) = true := by decide +kernel
  obtain ⟨⟨l, o⟩, he, hfacts⟩ := (Option.any_eq_true _ _).mp hopen
  obtain ⟨l', hl, he⟩ := Option.bind_eq_some_iff.mp he
  obtain ⟨o', ho, he⟩ := Option.map_eq_some_iff.mp he
  cases he
  simp only [Bool.and_eq_true, Option.isNone_iff_eq_none] at hfacts
  obtain ⟨⟨hinterrupt, hroom⟩, hrows⟩ := hfacts
  obtain ⟨-, hview, -, hfetch⟩ := opening_filter_until_lookup .exact
    (empty.run .none .exact insideAndOutside) "d" "SELECT * FROM t" "q" _ squareOptions g
    [.layer "q" .next, .layer "q" (.fetch .all)] rfl hg (by decide +kernel) (by decide) l o hl ho
  obtain ⟨table, htable⟩ := hfetch hinterrupt hroom
  refine ⟨l, o, g, hl, ho, hview, table, htable, ?_⟩
  rw [htable] at hrows
  simpa [Except.toOption] using hrows

/-- The filter that a layer on a query was opened with does not outlast a look for a record: one
point passes it, and once that point has been looked for fetching all gives both. -/
theorem opening_filter_lost_by_lookup :
    let w := (empty.run .none .exact insideAndOutside).run .none .exact
      [.openLayer "d" (.query "SELECT * FROM t") squareOptions "q"]
    let fetched (w : Workspace) := (w.layer? "q").bind fun l =>
      (l.fetch .none w.store .all).1.toOption.map (·.fids)
    fetched w = some [some 1] ∧
      fetched (w.run .none .exact [.layer "q" (.lookup 1)]) = some [some 1, some 2] := by
  decide +kernel

end Workspace

end FeatureLayer
