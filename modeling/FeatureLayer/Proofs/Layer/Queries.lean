import Mathlib.Data.List.Find
import FeatureLayer.Proofs.Layer.Browsing
import FeatureLayer.Proofs.Layer.Filters
import FeatureLayer.Proofs.Store.Query
/-!
A layer on a query for the records of a table that meet a predicate, beside a layer on that table under
that predicate. The one can be opened where the other can, and both read the same records.
-/

namespace FeatureLayer

namespace Store

variable {s s' s'' : Store}

/-- The other store holds all that this does, and perhaps tables besides that no source lists. -/
structure Within (s s' : Store) : Prop where
  registry : s'.registry = s.registry
  listed : ∀ d, (s'.source d).tables = (s.source d).tables
  length_le : s.tables.length ≤ s'.tables.length
  table : ∀ i < s.tables.length, s'.table i = s.table i

namespace Within

theorem refl (s : Store) : s.Within s := ⟨rfl, fun _ => rfl, Nat.le_refl _, fun _ _ => rfl⟩

theorem trans (h : s.Within s') (h' : s'.Within s'') : s.Within s'' where
  registry := h'.registry.trans h.registry
  listed d := (h'.listed d).trans (h.listed d)
  length_le := Nat.le_trans h.length_le h'.length_le
  table i hi := (h'.table i (Nat.lt_of_lt_of_le hi h.length_le)).trans (h.table i hi)

theorem setSource {i : Nat} {d : DataSource} (h : d.tables = (s.source i).tables) :
    s.Within (s.setSource i d) where
  registry := rfl
  listed j := by
    rw [source_setSource]
    split
    next hj => rw [h, hj.1]
    next => rfl
  length_le := Nat.le_refl _
  table _ _ := rfl

theorem addTable (s : Store) (t : FeatureTable) : s.Within (s.addTable t).2 where
  registry := rfl
  listed _ := rfl
  length_le := by simp
  table i hi := (s.table_addTable t i).trans (if_neg (by omega))

theorem connect (h : s.Within s') (name : String) (access : Access) :
    s'.connect name access = s.connect name access := by
  rw [Store.connect, Store.connect, find?, find?, h.registry]

theorem layerByName (h : s.Within s') (hs : s.Sound) (c : Connection) (name : String) :
    s'.layerByName c name = s.layerByName c name := by
  have hfind : ∀ p : FeatureTable → Bool,
      (s'.source c.source).tables.find? (fun i => p (s'.table i)) =
        (s.source c.source).tables.find? fun i => p (s.table i) := by
    intro p
    rw [h.listed]
    refine List.find?_congr fun i hi => ?_
    rw [h.table i (hs.listed _ i hi)]
  have htable : s'.tableOfName? (s'.source c.source) name =
      s.tableOfName? (s.source c.source) name := by
    rw [tableOfName?, tableOfName?, hfind (fun t => t.name = name),
      hfind (fun t => Text.sameWord t.name name)]
  rw [Store.layerByName, Store.layerByName, htable]

end Within

end Store

/-! ### The predicate of a query -/

namespace Query

def condition? (predicate : String) : Option String :=
  let text : String := .ofList (Text.trim predicate.toList)
  if text.isEmpty then none else some text

theorem condition?_eq_self {text : String} {c d : Char} {rest : List Char}
    (htext : text.toList = c :: rest) (hc : Text.isWhiteSpace c = false)
    (hlast : text.toList.getLast? = some d) (hd : Text.isWhiteSpace d = false) :
    condition? text = some text := by
  have htrim : Text.trim text.toList = text.toList := by
    rw [htext] at hlast ⊢
    exact Text.trim_eq_self hc hlast hd
  have hne : text.isEmpty = false := by
    rw [Bool.eq_false_iff]
    intro hempty
    rw [String.isEmpty_iff.mp hempty] at htext
    cases htext
  simp only [condition?, htrim, String.ofList_toList, hne, Bool.false_eq_true, if_false]

theorem notBlank_of_condition? {predicate text : String} (h : condition? predicate = some text) :
    Text.isBlank text = false := by
  simp only [condition?] at h
  split at h
  · cases h
  next hne =>
    cases h
    exact Text.isBlank_trim_eq_false fun hnil => hne (by rw [hnil]; rfl)

end Query

theorem View.setPredicate_condition (t : FeatureTable) (v : View) (predicate : String) :
    v.setPredicate t (some (.ofList (Text.trim predicate.toList))) =
      v.setPredicate t (Query.condition? predicate) := by
  simp only [Query.condition?]
  split
  next hempty =>
    rw [String.isEmpty_iff.mp hempty]
    rfl
  next => rfl

def FeatureTable.parse (t : FeatureTable) (predicate : String) :
    Except SyntaxError (Option Predicate) :=
  (Query.condition? predicate).mapM (Predicate.parse (View.vocabulary t))

namespace View

variable {t : FeatureTable} {predicate : String}

theorem setPredicate_of_parsed (v : View) {p : Option Predicate} (hp : t.parse predicate = .ok p) :
    v.setPredicate t (Query.condition? predicate) = (.ok (), { v.rewind with predicate := p }) := by
  rcases v.setPredicate_cases t (fun _ => Query.notBlank_of_condition?) with
    ⟨p', hp', hset⟩ | ⟨hnone, -⟩
  · cases hp.symm.trans hp'
    exact hset
  · exact absurd hp (hnone p)

theorem setPredicate_of_unparsed (v : View) (hp : ∀ p, t.parse predicate ≠ .ok p) :
    ∃ e v', v.setPredicate t (Query.condition? predicate) = (.error e, v') := by
  rcases v.setPredicate_cases t (fun _ => Query.notBlank_of_condition?) with
    ⟨p', hp', -⟩ | ⟨-, e, d, hset⟩
  · exact absurd hp' (hp p')
  · exact ⟨e, _, hset⟩

theorem selected_resultTable (t : FeatureTable) (u v : View) :
    v.selected (Store.resultTable t u) = (u.selected t).filter v.admits := by
  have hvalues : (t.records.filter u.admits).values = t.records.values.filter u.admits := by
    rw [FidMap.filter, FidMap.values, FidMap.values, List.filter_map]
    rfl
  exact congrArg (List.filter v.admits) hvalues

end View

namespace Store

variable {s : Store} {c : Connection} {name predicate : String} {dialect : Option String}

def withResult (s : Store) (d : Nat) (t : FeatureTable) : Store :=
  (s.addTable t).2.setSource d { s.source d with resultSets := (s.source d).resultSets + 1 }

theorem within_withResult (s : Store) (d : Nat) (t : FeatureTable) : s.Within (s.withResult d t) :=
  (Within.addTable s t).trans (.setSource rfl)

theorem table_withResult (s : Store) (d : Nat) (t : FeatureTable) :
    (s.withResult d t).table s.tables.length = t :=
  (s.table_addTable t s.tables.length).trans (if_pos rfl)

section

variable (hd : knownDialect dialect = true) (ht : Query.PlainTable name)
  (hp : (Text.trim predicate.toList).getLast? ≠ some ';')

include hd ht hp

theorem query_selectText_of_unnamed {e : Error} (h : s.layerByName c name = .error e)
    (spatial : Option Geometry) :
    ∃ e c', s.query c (Query.selectText name predicate) spatial dialect = (.error e, c', s) := by
  simp only [query, hd, Query.parse?_selectText ht hp, h]
  exact ⟨_, _, rfl⟩

theorem query_selectText_of_unparsed {v : View} (h : s.layerByName c name = .ok v)
    (hparse : ∀ p, (s.table v.table).parse predicate ≠ .ok p) (spatial : Option Geometry) :
    ∃ e c', s.query c (Query.selectText name predicate) spatial dialect = (.error e, c', s) := by
  obtain ⟨e, v', hset⟩ := v.setPredicate_of_unparsed hparse
  simp only [query, hd, Query.parse?_selectText ht hp, h, View.setPredicate_condition, hset]
  exact ⟨_, _, rfl⟩

theorem query_selectText {v : View} {p : Option Predicate} (h : s.layerByName c name = .ok v)
    (hparse : (s.table v.table).parse predicate = .ok p) (spatial : Option Geometry) :
    s.query c (Query.selectText name predicate) spatial dialect =
      (.ok ((View.make s.tables.length c.source false true).setSpatial (spatial.map .geometry)), c,
        s.withResult c.source (resultTable (s.table v.table) { v.rewind with predicate := p })) := by
  simp only [query, hd, Query.parse?_selectText ht hp, h, View.setPredicate_condition,
    v.setPredicate_of_parsed hparse]
  rfl

end

end Store

/-! ### Opening -/

namespace Layer

theorem within_close (s : Store) (l : Layer) : s.Within (l.close s).2 := by
  unfold close
  split
  · exact .refl s
  · split
    · exact .setSource rfl
    · exact .refl s

variable {s s' : Store} {l : Layer} {o : OpenLayer} {c : Connection} {spatial : Option Geometry}
  {name predicate : String}

def justOpened (f : Faults) (s : Store) (l : Layer) (c : Connection) (v : View) (filters : Filters) :
    OpenLayer :=
  let schema := (f.inspect s v l.reading.unnamedGeometry).1
  ⟨c, v, l.options.access, schema, schema.names l.reading.unnamedGeometry, filters, .none, .idle, none⟩

def openOver (f : Faults) (s : Store) (c : Connection) (spatial : Option Geometry) (l : Layer) :
    Except Error Layer × List Warning × Store :=
  match l.openView f s c spatial with
  | (.error e, _, s) => (.error e, [], s)
  | (.ok (v, filters), c, s) =>
    (.ok (l.withState (l.justOpened f s c v.rewind filters)),
      l.report (f.inspect s v.rewind l.reading.unnamedGeometry).2, s)

/-- What is refused before the table is looked for is refused for a name and for a query alike. -/
theorem openOn_cases (f : Faults) (s : Store) (dataSource : String) (options : OpenOptions) :
    (∃ e, ∀ s', s.Within s' → ∀ source,
        openOn f s' dataSource source options = (.error e, [], s')) ∨
      ∃ c spatial, ∀ s', s.Within s' → ∀ source, openOn f s' dataSource source options =
        openOver f s' c spatial ⟨dataSource, source, options, .default, none, none⟩ := by
  have hconnect : ∀ {s'}, s.Within s' → f.connect s' dataSource options.access =
      f.connect s dataSource options.access := fun h => by
    rw [Faults.connect, Faults.connect, h.connect]
  cases hc : f.connect s dataSource options.access with
  | error e =>
    cases e
    all_goals exact .inl ⟨_, fun s' h source => by simp only [openOn, openState, hconnect h, hc]; rfl⟩
  | ok c =>
    cases hspatial : options.spatialFilter.mapM f.codec.ofWkt with
    | error e =>
      refine .inl ⟨e, fun s' h source => ?_⟩
      simp only [openOn, openState, hconnect h, hc, hspatial]
      rfl
    | ok spatial =>
      refine .inr ⟨c, spatial, fun s' h source => ?_⟩
      simp only [openOn, openState, openOver, hconnect h, hc, hspatial]
      generalize openView f s' _ c spatial = opened
      obtain ⟨_ | _, _, _⟩ := opened <;> rfl

section

variable {v v' : View} {e : Error}

theorem openOver_name (hl : l.source = .name name) (h : s.layerByName c name = .ok v) :
    ∃ ws, l.openOver .none s c spatial = (.ok (l.withState (l.justOpened .none s c
      (v.setSpatial (spatial.map .geometry)) ⟨"", spatial.map .geometry⟩)), ws, s) := by
  obtain ⟨-, hmake⟩ := Store.layerByName_ok h
  have hfound : Faults.none.layerByName s c name = .ok v := h
  unfold openOver openView
  simp only [hl, hfound]
  cases spatial with
  | none =>
    rw [hmake]
    exact ⟨_, rfl⟩
  | some g => exact ⟨_, rfl⟩

theorem openOver_name_of_unnamed (hl : l.source = .name name) (h : s.layerByName c name = .error e) :
    ∃ e, l.openOver .none s c spatial = (.error e, [], s) := by
  have hfound : Faults.none.layerByName s c name = .error e := h
  unfold openOver openView
  simp only [hl, hfound]
  exact ⟨_, rfl⟩

theorem openOver_query {text : String} {c' : Connection} (hl : l.source = .query text)
    (h : s.query c text spatial l.options.dialect = (.ok v, c', s')) :
    ∃ ws, l.openOver .none s c spatial =
      (.ok (l.withState (l.justOpened .none s' c' v.rewind .none)), ws, s') := by
  have hrun : Faults.none.runQuery s c text spatial l.options.dialect = (.ok (some v), c', s') := by
    simp only [Faults.runQuery, Faults.none, h]
    rfl
  unfold openOver openView
  simp only [hl, hrun]
  exact ⟨_, rfl⟩

theorem openOver_query_of_refused {text : String} {c' : Connection} (hl : l.source = .query text)
    (h : s.query c text spatial l.options.dialect = (.error e, c', s')) :
    ∃ e, l.openOver .none s c spatial = (.error e, [], s') := by
  have hrun : Faults.none.runQuery s c text spatial l.options.dialect = (.error e, c', s') := by
    simp only [Faults.runQuery, Faults.none, h]
    rfl
  unfold openOver openView
  simp only [hl, hrun]
  exact ⟨_, rfl⟩

theorem setPredicate_of_parsed (ho : l.state = some o) {p : Option Predicate}
    (h : (s.table o.view.table).parse predicate = .ok p) :
    l.setPredicate .none s predicate = (.ok (), [], l.withState { o with
      view := { o.view.rewind with predicate := p }
      filters := { o.filters with predicate := .ofList (Text.trim predicate.toList) }
      scan := .idle }) := by
  have hset := Faults.none_setPredicate s 0 o.view (Query.condition? predicate)
  rw [o.view.setPredicate_of_parsed h] at hset
  simp only [Query.condition?] at hset
  simp only [setPredicate, ho, hset]

theorem setPredicate_of_unparsed (ho : l.state = some o)
    (h : ∀ p, (s.table o.view.table).parse predicate ≠ .ok p) :
    ∃ e, (l.setPredicate .none s predicate).1 = .error e := by
  obtain ⟨e, v', hset⟩ := o.view.setPredicate_of_unparsed h
  rw [← Faults.none_setPredicate s 0] at hset
  simp only [Query.condition?] at hset
  simp only [setPredicate, ho, hset]
  exact ⟨_, rfl⟩

end

/-- Two open layers have read the same schema, and the records that they select are the same. No count
is set for the table of the second. -/
structure SameReads (s : Store) (x y : Layer) (ox oy : OpenLayer) : Prop where
  state : x.state = some ox
  state' : y.state = some oy
  reading : y.reading = x.reading
  uninterrupted : x.interrupt = none
  uninterrupted' : y.interrupt = none
  schema : oy.schema = ox.schema
  fieldNames : oy.fieldNames = ox.fieldNames
  ignored : oy.ignored = ox.ignored
  project : oy.view.project = ox.view.project
  selected : oy.view.selected (s.table oy.view.table) = ox.view.selected (s.table ox.view.table)
  uncounted : (s.table oy.view.table).reportedCount = none

theorem inspect_congr {f : Faults} (v v' : View) (hi : v'.ignored = v.ignored)
    (h : (s'.table v'.table).schema = (s.table v.table).schema) (unnamed : String) :
    f.inspect s' v' unnamed = f.inspect s v unnamed := by
  have hschema : v'.schema (s'.table v'.table) = v.schema (s.table v.table) := by
    rw [View.schema, View.schema, h, hi]
  have hreferenced : f.referenced s' v' unnamed = f.referenced s v unnamed := by
    funext g i
    simp only [Faults.referenced, Faults.spatialRefOf, FeatureTable.spatialRef, h]
  rw [Faults.inspect, Faults.inspect, hschema, hreferenced]

/-- A layer on the result of a query and a layer on the table under the predicate of the query, both
just opened, read the same. -/
theorem sameReads_of_result {s₀ s : Store} {x y : Layer} {c c' : Connection} {i j d d' : Nat}
    {writable : Bool} {p : Option Predicate} {spatial : Option SpatialFilter} {text : String}
    (hreading : y.reading = x.reading) (hx : x.interrupt = none) (hy : y.interrupt = none)
    (hi : s.table i = Store.resultTable (s.table j) { View.make j d writable false with predicate := p })
    (hi₀ : s₀.table i = s.table i) :
    let ox := { x.justOpened .none s c ((View.make j d writable false).setSpatial spatial)
        ⟨"", spatial⟩ with
      view := { ((View.make j d writable false).setSpatial spatial).rewind with predicate := p }
      filters := ⟨text, spatial⟩
      scan := .idle }
    let oy := y.justOpened .none s₀ c' ((View.make i d' false true).setSpatial spatial).rewind .none
    SameReads s (x.withState ox) (y.withState oy) ox oy := by
  intro ox oy
  have hschema : (s₀.table i).schema = (s.table j).schema := by
    rw [hi₀, hi]
    rfl
  have hinspect : Faults.none.inspect s₀ oy.view y.reading.unnamedGeometry =
      Faults.none.inspect s ((View.make j d writable false).setSpatial spatial)
        x.reading.unnamedGeometry := by
    rw [hreading]
    exact inspect_congr ((View.make j d writable false).setSpatial spatial) oy.view rfl hschema _
  have hoy : oy.schema = ox.schema := congrArg Prod.fst hinspect
  refine ⟨rfl, rfl, hreading, hx, hy, hoy, ?_, rfl, rfl, ?_, ?_⟩
  · show oy.schema.names y.reading.unnamedGeometry = ox.schema.names x.reading.unnamedGeometry
    rw [hoy, hreading]
  · show oy.view.selected (s.table i) = ox.view.selected (s.table j)
    rw [hi, View.selected_resultTable, View.selected, View.selected, List.filter_filter]
    refine List.filter_congr fun r _ => ?_
    -- the one view has the predicate alone and the other the spatial filter alone
    simp only [oy, ox, justOpened, View.admits, View.make, View.setSpatial, View.rewind,
      Option.all_none, Bool.and_true, Bool.true_and]
    exact Bool.and_comm _ _
  · show (s.table i).reportedCount = none
    rw [hi]
    rfl

namespace SameReads

variable {x y : Layer} {ox oy : OpenLayer}

theorem plan (h : SameReads s x y ox oy) : y.plan oy = x.plan ox := by
  rw [Layer.plan, Layer.plan, h.schema, h.ignored, h.reading]

theorem fetched (h : SameReads s x y ox oy) {t t' : Table} (ht : (x.fetch .none s .all).1 = .ok t)
    (ht' : (y.fetch .none s .all).1 = .ok t') :
    { t' with warnings := [] } = { t with warnings := [] } := by
  have hx := shows_of_fetch_all h.state ht
  have hy := shows_of_fetch_all h.state' ht'
  rw [h.plan, h.reading, h.selected, h.project] at hy
  exact hy.eq_of_same hx

theorem fetch_ok (h : SameReads s x y ox oy)
    (hx : ∀ room, (x.fetch .none s .all).1 ≠ .error (.allocation room))
    (hy : ∀ room, (y.fetch .none s .all).1 ≠ .error (.allocation room)) :
    ∃ t t', (x.fetch .none s .all).1 = .ok t ∧ (y.fetch .none s .all).1 = .ok t' ∧
      { t' with warnings := [] } = { t with warnings := [] } := by
  obtain ⟨t, ht⟩ := fetch_all_ok_of_room h.state h.uninterrupted hx
  obtain ⟨t', ht'⟩ := fetch_all_ok_of_room h.state' h.uninterrupted' hy
  exact ⟨t, t', ht, ht', h.fetched ht ht'⟩

theorem fetch_eq (h : SameReads s x y ox oy)
    (hcount : (s.table ox.view.table).reportedCount = none) :
    (y.fetch .none s .all).1 = (x.fetch .none s .all).1 := by
  have hy := Faults.none_countOf_uncounted h.uncounted
  rw [h.selected, ← Faults.none_countOf_uncounted hcount] at hy
  cases hfits : (x.plan ox).fits (Faults.none.countOf s ox.view true).toNat with
  | false =>
    rw [fetch_all_of_not_fits h.state hfits,
      fetch_all_of_not_fits h.state' (by rw [h.plan, hy, hfits]), hy]
  | true =>
    obtain ⟨t, ht⟩ := fetch_all_ok h.state h.uninterrupted hfits
    obtain ⟨t', ht'⟩ := fetch_all_ok h.state' h.uninterrupted' (by rw [h.plan, hy, hfits])
    rw [ht, ht']
    refine congrArg Except.ok ?_
    calc t' = { t' with warnings := [] } := by rw [← warnings_of_fetch_all h.state' h.uncounted ht']
      _ = { t with warnings := [] } := h.fetched ht ht'
      _ = t := by rw [← warnings_of_fetch_all h.state hcount ht]

end SameReads

/-- A query for the records of a table that meet a predicate can be opened just when the table can and
takes the predicate. Then the two layers read the same. -/
theorem openOn_selectText (hs : s.Sound) {options : OpenOptions}
    (hd : Store.knownDialect options.dialect = true) (ht : Query.PlainTable name)
    (hp : (Text.trim predicate.toList).getLast? ≠ some ';') (dataSource : String) :
    ((∃ e, openOn .none s dataSource (.query (Query.selectText name predicate)) options =
        (.error e, [], s)) ∧
      ∀ x ws s', openOn .none s dataSource (.name name) options = (.ok x, ws, s') →
        s' = s ∧ ∃ e, (x.setPredicate .none s predicate).1 = .error e) ∨
    ∃ y oy ws s₁,
      openOn .none s dataSource (.query (Query.selectText name predicate)) options =
        (.ok y, ws, s₁) ∧
      s.Within s₁ ∧ oy.view.table = s.tables.length ∧ oy.view.table < s₁.tables.length ∧
      ∀ s', s₁.Within s' → ∃ x x' ox ws,
        openOn .none s' dataSource (.name name) options = (.ok x, ws, s') ∧
        x.setPredicate .none s' predicate = (.ok (), [], x') ∧ SameReads s' x' y ox oy := by
  rcases openOn_cases .none s dataSource options with ⟨e, he⟩ | ⟨c, spatial, hopen⟩
  · refine .inl ⟨⟨e, he s (.refl s) _⟩, fun x ws s' hx => ?_⟩
    rw [he s (.refl s)] at hx
    cases hx
  let named : Layer := ⟨dataSource, .name name, options, .default, none, none⟩
  let queried : Layer :=
    ⟨dataSource, .query (Query.selectText name predicate), options, .default, none, none⟩
  rw [hopen s (.refl s)]
  cases hfound : s.layerByName c name with
  | error e =>
    obtain ⟨e₁, he₁⟩ : ∃ e, named.openOver .none s c spatial = (.error e, [], s) :=
      openOver_name_of_unnamed rfl hfound
    obtain ⟨e₂, c', hq⟩ := Store.query_selectText_of_unnamed hd ht hp hfound spatial
    refine .inl ⟨openOver_query_of_refused rfl hq, fun x ws s' hx => ?_⟩
    rw [hopen s (.refl s)] at hx
    cases he₁.symm.trans hx
  | ok v =>
    obtain ⟨hlisted, hmake⟩ := Store.layerByName_ok hfound
    generalize v.table = j at hlisted hmake
    subst hmake
    have hlt : j < s.tables.length := hs.listed c.source j hlisted
    generalize hwritable : decide (c.access = .readWrite) = writable at hfound
    have hopened : ∀ s', s.Within s' → ∃ ws, openOn .none s' dataSource (.name name) options =
        (.ok (named.withState (named.justOpened .none s' c
          ((View.make j c.source writable false).setSpatial (spatial.map .geometry))
          ⟨"", spatial.map .geometry⟩)), ws, s') := fun s' hw => by
      rw [hopen s' hw]
      exact openOver_name rfl ((hw.layerByName hs c name).trans hfound)
    by_cases hparse : ∃ p, (s.table j).parse predicate = .ok p
    · obtain ⟨p, hparse⟩ := hparse
      have hq := Store.query_selectText hd ht hp hfound hparse spatial
      generalize hresult : Store.resultTable _ _ = result at hq
      obtain ⟨ws, hqueried⟩ := openOver_query (l := queried) rfl hq
      have hlength : s.tables.length < (s.withResult c.source result).tables.length := by
        show s.tables.length < (s.addTable _).2.tables.length
        rw [Store.length_addTable]
        omega
      have hnew := s.table_withResult c.source result
      let oy := queried.justOpened .none (s.withResult c.source result) c
        ((View.make s.tables.length c.source false true).setSpatial (spatial.map .geometry)).rewind .none
      refine .inr ⟨_, oy, ws, _, hqueried, s.within_withResult _ _, rfl, hlength, fun s' hw => ?_⟩
      have hwithin := (s.within_withResult c.source result).trans hw
      have htable : s'.table j = s.table j := hwithin.table j hlt
      obtain ⟨ws', hnamed⟩ := hopened s' hwithin
      have hresult' : s'.table s.tables.length = Store.resultTable (s'.table j)
          { View.make j c.source writable false with predicate := p } := by
        rw [hw.table _ hlength, hnew, ← hresult, htable]
        rfl
      have hset := setPredicate_of_parsed (l := named.withState (named.justOpened .none s' c
        ((View.make j c.source writable false).setSpatial (spatial.map .geometry))
        ⟨"", spatial.map .geometry⟩)) rfl (htable.symm ▸ hparse)
      exact ⟨_, _, _, ws', hnamed, hset,
        sameReads_of_result (x := named) (y := queried) rfl rfl rfl hresult' (hw.table _ hlength).symm⟩
    · rw [not_exists] at hparse
      obtain ⟨e, c', hq⟩ := Store.query_selectText_of_unparsed hd ht hp hfound hparse spatial
      refine .inl ⟨openOver_query_of_refused rfl hq, fun x ws s' hx => ?_⟩
      obtain ⟨ws', hnamed⟩ := hopened s (.refl s)
      cases hnamed.symm.trans hx
      exact ⟨rfl, setPredicate_of_unparsed rfl hparse⟩

end Layer

end FeatureLayer
