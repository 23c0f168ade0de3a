import FeatureLayer.Proofs.Layer.Queries
import FeatureLayer.Proofs.Workspace.ResultSets
/-!
A query for the records of a table that meet a predicate, beside the table itself with that predicate as
filter. The query can be opened just when the table can and takes the filter, and both layers read the
same.
-/

namespace FeatureLayer

theorem Layer.SameReads.congr {s s' : Store} {x y : Layer} {ox oy : OpenLayer}
    (h : SameReads s x y ox oy) (hs : s'.tables = s.tables) : SameReads s' x y ox oy := by
  have htable : ∀ i, s'.table i = s.table i := fun i => by rw [Store.table, Store.table, hs]
  refine ⟨h.state, h.state', h.reading, h.uninterrupted, h.uninterrupted', h.schema, h.fieldNames,
    h.ignored, h.project, ?_, ?_⟩
  · rw [htable, htable]
    exact h.selected
  · rw [htable]
    exact h.uncounted

theorem Layer.sameTable_of_tables_eq {s s' : Store} (hs : s'.tables = s.tables) (l : Layer) :
    l.SameTable s s' := fun o _ => by rw [Store.table, Store.table, hs]

namespace Workspace

variable {f : Faults} {A : RegionAlgebra} {w : Workspace} {d n : String} {contents : LayerSource}
  {options : OpenOptions} {l : Layer} {e : Error} {ws : List Warning} {s : Store}

theorem within_closeLayer (w : Workspace) (n : String) : w.store.Within (w.closeLayer n).store := by
  unfold closeLayer
  split
  · exact Layer.within_close ..
  · exact .refl _

structure Opened (w : Workspace) (s : Store) (n : String) (l : Layer) (w' : Workspace) : Prop where
  within : s.Within w'.store
  tables : w'.store.tables = s.tables
  views : w'.views = w.views
  layer : w'.layer? n = some l
  others : ∀ m, m ≠ n → w'.layer? m = w.layer? m

theorem opened_of_openOn (h : Layer.openOn f w.store d contents options = (.ok l, ws, s))
    (A : RegionAlgebra) (n : String) :
    w.grants f A (.openLayer d contents options n) = true ∧
      w.Opened s n l (w.step f A (.openLayer d contents options n)) := by
  have hp : w.perform f A (.openLayer d contents options n) = some (⟨.ok .done, ws, []⟩,
      (({ w with store := s } : Workspace).closeLayer n).holdLayer n l) := by
    simp only [perform, h]
  rw [step_of_perform f A hp]
  refine ⟨by simp [grants, hp, Answer.granted], within_closeLayer { w with store := s } n,
    tables_closeLayer { w with store := s } n, views_closeLayer { w with store := s } n,
    (lookup_hold _ n n l).trans (if_pos rfl), fun m hm => ?_⟩
  exact ((lookup_hold _ n m l).trans (if_neg hm)).trans
    (layer?_closeLayer_of_ne (w := { w with store := s }) hm)

theorem refused_of_openOn (h : Layer.openOn f w.store d contents options = (.error e, ws, s))
    (A : RegionAlgebra) (n : String) :
    w.grants f A (.openLayer d contents options n) = false ∧
      w.step f A (.openLayer d contents options n) = { w with store := s } := by
  have hp : w.perform f A (.openLayer d contents options n) =
      some (⟨.error e, ws, []⟩, { w with store := s }) := by
    simp only [perform, h]
  exact ⟨by simp [grants, hp, Answer.granted], step_of_perform f A hp⟩

theorem grants_setPredicate (hl : w.layer? n = some l) (A : RegionAlgebra) (predicate : String) :
    w.grants f A (.layer n (.setPredicate predicate)) =
      (l.setPredicate f w.store predicate).1.toOption.isSome := by
  have hvalue : (l.ask f w.store (.setPredicate predicate)).value =
      (l.setPredicate f w.store predicate).1.map fun _ => .done := rfl
  simp only [grants, perform_layer f A hl, Option.any_some, Answer.granted, hvalue]
  cases (l.setPredicate f w.store predicate).1 <;> rfl

theorem Opened.apart {w' : Workspace} (h : w.Opened s n l w') (hw : w.Sound)
    (hs : w.store.Within s) (hlt : w.store.tables.length < s.tables.length) :
    w'.Apart n w.store.tables.length where
  lt := h.tables.symm ▸ hlt
  unlisted d hd := by
    rw [h.within.listed, hs.listed] at hd
    exact Nat.lt_irrefl _ (hw.store.listed d _ hd)
  views m v hv hi := by
    have hv : w.view? m = some v := by rwa [view?, h.views] at hv
    exact Nat.lt_irrefl _ (hi ▸ (hw.held v (.inl ⟨m, hv⟩)).lt)
  layers m l' o hl ho hm hi := by
    rw [h.others m hm] at hl
    exact Nat.lt_irrefl _ (hi ▸ (hw.held o.view (.inr ⟨m, l', o, hl, ho, rfl⟩)).lt)

section

variable {t p q : String} (hw : w.Sound) (ht : Query.PlainTable t)
  (hp : (Text.trim p.toList).getLast? ≠ some ';') (hd : Store.knownDialect options.dialect = true)

include hw ht hp hd

theorem filter_refused (A : RegionAlgebra) (d q n : String)
    (hq : w.grants .none A (.openLayer d (.query (Query.selectText t p)) options q) = false) :
    let w₁ := w.step .none A (.openLayer d (.query (Query.selectText t p)) options q)
    let w₂ := w₁.step .none A (.openLayer d (.name t) options n)
    (w₁.grants .none A (.openLayer d (.name t) options n) &&
      w₂.grants .none A (.layer n (.setPredicate p))) = false := by
  intro w₁ w₂
  rcases Layer.openOn_selectText hw.store hd ht hp d with
    ⟨⟨e, he⟩, hnamed⟩ | ⟨y, oy, ws, s₁, hquery, -⟩
  · have hw₁ : w₁ = w := (refused_of_openOn he A q).2
    rcases hopen : Layer.openOn .none w.store d (.name t) options with ⟨e | x, ws, s⟩
    · rw [hw₁, (refused_of_openOn hopen A n).1]
      rfl
    · obtain ⟨rfl, e', he'⟩ := hnamed x ws s hopen
      have hx : w.Opened w.store n x w₂ := by
        show w.Opened w.store n x (w₁.step .none A _)
        rw [hw₁]
        exact (opened_of_openOn hopen A n).2
      rw [grants_setPredicate hx.layer,
        Layer.setPredicate_congr (Layer.sameTable_of_tables_eq hx.tables x), he']
      exact Bool.and_false _
  · rw [(opened_of_openOn hquery A q).1] at hq
    cases hq

/-- Where the query is granted, so are the table and its filter. The two layers that are open then read
the same, and the table that the one on the query is on is apart. -/
theorem filter_granted (A : RegionAlgebra) (d : String) {q n : String} (hqn : q ≠ n)
    (hq : w.grants .none A (.openLayer d (.query (Query.selectText t p)) options q) = true) :
    let w₁ := w.step .none A (.openLayer d (.query (Query.selectText t p)) options q)
    let w₂ := w₁.step .none A (.openLayer d (.name t) options n)
    let w₃ := w₂.step .none A (.layer n (.setPredicate p))
    (w₁.grants .none A (.openLayer d (.name t) options n) &&
        w₂.grants .none A (.layer n (.setPredicate p))) = true ∧
      ∃ x y ox oy, w₃.layer? n = some x ∧ w₃.layer? q = some y ∧ y.source.isQuery = true ∧
        Layer.SameReads w₃.store x y ox oy ∧ w₃.Apart q oy.view.table := by
  intro w₁ w₂ w₃
  rcases Layer.openOn_selectText hw.store hd ht hp d with
    ⟨⟨e, he⟩, -⟩ | ⟨y, oy, ws, s₁, hquery, hin, hi, hlt, hnamed⟩
  · rw [(refused_of_openOn he A q).1] at hq
    cases hq
  · have hy : w.Opened s₁ q y w₁ := (opened_of_openOn hquery A q).2
    obtain ⟨x, x', ox, ws', hopen, hset, hreads⟩ := hnamed w₁.store hy.within
    have hopened := opened_of_openOn hopen A n
    have hx : w₁.Opened w₁.store n x w₂ := hopened.2
    have hset₂ : x.setPredicate .none w₂.store p = (.ok (), [], x') :=
      (Layer.setPredicate_congr (Layer.sameTable_of_tables_eq hx.tables x) p).trans hset
    have hlayer : w₃.layer? n = some x' := by
      rw [layer?_step_layer, hx.layer]
      exact congrArg (fun r => some r.2.2) hset₂
    have hbrowses : (Operation.layer n (.setPredicate p)).browsesAt q = true := Bool.or_true _
    have hqueried : w₃.layer? q = some y := by
      rw [layer?_step_eq hbrowses (if_neg hqn.symm), hx.others q hqn, hy.layer]
    have hstore : w₃.store = w₂.store :=
      store_step_layer (fun _ _ => rfl) A w₂ n
    refine ⟨?_, x', y, ox, oy, hlayer, hqueried, ?_, ?_, ?_⟩
    · rw [hopened.1, grants_setPredicate hx.layer, hset₂]
      rfl
    · rw [Layer.openOn_source .none w.store hquery]
      rfl
    · rw [hstore]
      exact hreads.congr hx.tables
    · rw [hi]
      exact ((hy.apart hw hin (hi ▸ hlt)).step _).step _

end

/-- A query for the records of a table that meet a predicate can be opened just when the table can be
opened by its name and takes the predicate as filter. Then both layers know the same fields and fetch the
same records, if there is room for the counts that the store tells. What is done later beside the layer
on the query does not change what it answers, and whatever is to be written through a layer on a query
is refused. -/
theorem query_reads_as_filter (A : RegionAlgebra) (earlier : List Operation)
    (d t p q n : String) (options : OpenOptions) (ht : Query.PlainTable t)
    (hp : (Text.trim p.toList).getLast? ≠ some ';')
    (hd : Store.knownDialect options.dialect = true) (hqn : q ≠ n) :
    let w := empty.run .none A earlier
    let openQuery := Operation.openLayer d (.detect (Query.selectText t p)) options q
    let openTable := Operation.openLayer d (.detect t) options n
    let filter := Operation.layer n (.setPredicate p)
    let w₁ := w.step .none A openQuery
    let w₂ := w₁.step .none A openTable
    let w₃ := w₂.step .none A filter
    w.grants .none A openQuery = (w₁.grants .none A openTable && w₂.grants .none A filter) ∧
      (w.grants .none A openQuery = true → ∃ x y ox oy,
        w₃.layer? n = some x ∧ x.state = some ox ∧
        w₃.layer? q = some y ∧ y.state = some oy ∧ y.source.isQuery = true ∧
        oy.schema = ox.schema ∧ oy.fieldNames = ox.fieldNames ∧
        ((w₃.store.table ox.view.table).reportedCount = none →
          (y.fetch .none w₃.store .all).1 = (x.fetch .none w₃.store .all).1) ∧
        ((∀ room, (x.fetch .none w₃.store .all).1 ≠ .error (.allocation room)) →
          (∀ room, (y.fetch .none w₃.store .all).1 ≠ .error (.allocation room)) →
          ∃ filtered queried, (x.fetch .none w₃.store .all).1 = .ok filtered ∧
            (y.fetch .none w₃.store .all).1 = .ok queried ∧
            { queried with warnings := [] } = { filtered with warnings := [] }) ∧
        ∀ later : List Operation, (∀ op ∈ later, op.browsesAt q = true) →
          repliesOf .none A q w₃ later =
            y.answers .none w₃.store (later.filterMap (·.requestTo? q))) ∧
      ∀ later m l op, let w' := w₃.run .none A later
        w'.layer? m = some l → l.source.isQuery = true → op.writesThrough m = true →
          w'.grants .none A op = false ∧ (w'.step .none A op).store = w'.store := by
  intro w openQuery openTable filter
  have hquery : openQuery = .openLayer d (.query (Query.selectText t p)) options q := by
    rw [← LayerSource.detect_selectText]
  have htable : openTable = .openLayer d (.name t) options n := by rw [← LayerSource.detect_plain ht]
  rw [hquery, htable]
  intro w₁ w₂ w₃
  have hw : w.Sound := sound_empty.run earlier
  have hkeeps : w₃.KeepsOut := ((((keepsOut_empty.run earlier).step _).step _).step _)
  refine ⟨?_, fun hgranted => ?_, fun later m l op hl hq hop => (hkeeps.run later).refuses hl hq hop⟩
  · cases hgranted : w.grants .none A (.openLayer d (.query (Query.selectText t p)) options q) with
    | false => exact (filter_refused hw ht hp hd A d q n hgranted).symm
    | true => exact (filter_granted hw ht hp hd A d hqn hgranted).1.symm
  · obtain ⟨-, x, y, ox, oy, hx, hy, hsource, hreads, hapart⟩ :=
      filter_granted hw ht hp hd A d hqn hgranted
    refine ⟨x, y, ox, oy, hx, hreads.state, hy, hreads.state', hsource, hreads.schema,
      hreads.fieldNames, hreads.fetch_eq, hreads.fetch_ok, fun later hlater => ?_⟩
    refine hapart.repliesOf_eq hy (fun o ho => ?_) hlater
    obtain rfl := Option.some.inj (hreads.state'.symm.trans ho)
    rfl

def oneAndTwo : List Operation :=
  [.create "d" (some "c"),
    .createLayer "c" "t" ⟨[⟨"a", .integer, .none, 0, 0, true, false, none, false, none⟩], []⟩ (some "v"),
    .view "v" (.create ⟨none, [.integer 1], []⟩), .view "v" (.create ⟨none, [.integer 2], []⟩)]

def openForTwo : List Operation :=
  [.openLayer "d" (.detect (Query.selectText "T" "  a = 2 ")) ⟨.readOnly, .empty, none, none⟩ "q",
    .openLayer "d" (.detect "T") ⟨.readOnly, .empty, none, none⟩ "n",
    .layer "n" (.setPredicate "  a = 2 ")]

theorem query_reads_as_filter_of_two :
    let w := (empty.run .none .exact oneAndTwo).run .none .exact openForTwo
    ∃ x y table, w.layer? "n" = some x ∧ w.layer? "q" = some y ∧
      (x.fetch .none w.store .all).1 = .ok table ∧ table.fids = [some 2] ∧
      repliesOf .none .exact "q" w
        [.view "v" (.create ⟨none, [.integer 2], []⟩), .layer "q" (.fetch .all)] =
          [.ok (.table table)] ∧
      w.grants .none .exact (.layer "q" (.delete 2)) = false := by
  intro w
  have hopen : (empty.run .none .exact oneAndTwo).grants .none .exact
      (.openLayer "d" (.detect (Query.selectText "T" "  a = 2 ")) ⟨.readOnly, .empty, none, none⟩
        "q") = true := by decide +kernel
  have hplain : Query.PlainTable "T" := by
    refine ⟨by decide, fun c hc => ?_⟩
    obtain rfl : c = 'T' := by simpa using hc
    exact ⟨by decide, by decide⟩
  obtain ⟨-, hreads, hrefused⟩ := query_reads_as_filter .exact oneAndTwo "d" "T" "  a = 2 " "q" "n"
    ⟨.readOnly, .empty, none, none⟩ hplain (by decide +kernel) rfl (by decide)
  obtain ⟨x, y, ox, oy, hx, hox, hy, hoy, hq, -, -, hfetch, -, hlater⟩ := hreads hopen
  have hfacts : (w.layer? "n").any (fun l => l.state.any (fun o =>
        (w.store.table o.view.table).reportedCount = none) &&
      (l.fetch .none w.store .all).1.toOption.any (·.fids = [some 2])) = true := by decide +kernel
  rw [show w.layer? "n" = some x from hx, Option.any_some, hox, Option.any_some, Bool.and_eq_true,
    decide_eq_true_eq] at hfacts
  obtain ⟨table, htable, hfids⟩ := (Option.any_eq_true _ _).mp hfacts.2
  have hx₁ : (x.fetch .none w.store .all).1 = .ok table := by
    cases hread : (x.fetch .none w.store .all).1 with
    | error e =>
      rw [hread] at htable
      cases htable
    | ok t =>
      rw [hread] at htable
      exact congrArg Except.ok (Option.some.inj htable)
  have hy₁ : (y.fetch .none w.store .all).1 = .ok table := (hfetch hfacts.1).trans hx₁
  refine ⟨x, y, table, hx, hy, hx₁, of_decide_eq_true hfids, (hlater _ (by decide)).trans ?_,
    (hrefused [] "q" y _ hy hq rfl).1⟩
  exact congrArg (fun e => [Except.map Reply.table e]) hy₁

/-- A count that is set for the table is the room that fetching all of it asks for, whatever the filter
leaves. The result of the query has no such count. -/
theorem query_fetches_beyond_count :
    let w := empty.run .none .exact
      (oneAndTwo ++ [.view "v" (.setReportedCount (some 9223372036854775807))])
    let w' := w.run .none .exact openForTwo
    let fetched (n : String) := (w'.layer? n).map fun l =>
      (l.fetch .none w'.store .all).1.map (·.fids)
    (w.run .none .exact (openForTwo.take 2)).grants .none .exact
        (.layer "n" (.setPredicate "  a = 2 ")) = true ∧
      fetched "q" = some (.ok [some 2]) ∧
      fetched "n" = some (.error (.allocation 9223372036854775807)) := by
  decide +kernel

end Workspace

end FeatureLayer
