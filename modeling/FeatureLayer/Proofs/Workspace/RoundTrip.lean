import FeatureLayer.Proofs.Layer.RoundTrip
import FeatureLayer.Proofs.Workspace.Typing

namespace FeatureLayer.Workspace

variable {A : RegionAlgebra} {w : Workspace}

def Candid (w : Workspace) : Prop :=
  ∀ n l, w.layer? n = some l → l.source.isQuery = false → l.Candid

theorem candid_empty : empty.Candid := fun _ _ h => by cases h

theorem Candid.step (h : w.Candid) (op : Operation) : (w.step .none A op).Candid := by
  intro n l hl hq
  rcases w.step_cases .none A op with hs | ⟨a, he⟩
  · rw [hs] at hl
    exact h n l hl hq
  · cases he.layerOrigin hl with
    | kept hl₀ hk => exact (h n _ hl₀ (hk.source ▸ hq)).keeps hk
    | refreshed hl₀ hk =>
      rw [Layer.refreshSchema_source] at hq
      exact ((h n _ hl₀ (hk.source ▸ hq)).keeps hk).refreshSchema
    | @asked l₀ r hl₀ =>
      rw [Layer.ask_source] at hq
      exact (h n l₀ hl₀ hq).ask hq r
    | opened _ _ heq =>
      exact Layer.candid_of_fresh hq fun o ho => Layer.openOn_state .none w.store heq ho

theorem Candid.run (h : w.Candid) (ops : List Operation) : (w.run .none A ops).Candid := by
  induction ops generalizing w with
  | nil => exact h
  | cons op ops ih => exact ih (h.step op)

theorem takesBack_of_run (hw : w.Sound) (hc : w.Candid) {n : String} {l : Layer} {o : OpenLayer}
    (hl : w.layer? n = some l) (ho : l.state = some o) (hq : l.source.isQuery = false)
    (ht : w.Typed o.view.table) (hwrite : l.can .none w.store "RandomWrite" = true)
    (hrereads : (l.target w.store o).Rereads l.reading) (hfilters : o.filters = .none)
    (hignored : o.ignored = .none)
    (hunique : ∀ f ∈ o.schema.fields, f.unique = true → f.subkind ≠ .boolean)
    (hback : ∀ e ∈ (w.store.table o.view.table).records.entries, ∀ g, some g ∈ e.2.geometries →
      l.reading.ReadsBack g) : Layer.TakesBack w.store l o := by
  have hheld : w.Holds o.view := .inr ⟨n, l, o, hl, ho, rfl⟩
  obtain ⟨hschema, hwhole⟩ := ht.known n l hl o ho rfl
  exact {
    state := ho
    writes := hwrite
    rereads := hrereads
    ignored := hignored
    unlimited := (hc n l hl hq o ho).unlimited hwhole hfilters hignored
    schema := hschema
    lt := (hw.held _ hheld).lt
    sound := hw.store.tables _
    typed := ht.writable _ hheld rfl (Layer.writable_of_can ho hwrite).1
    unique := hunique
    readsBack := hback }

/-- A row that a layer reads goes back under its identifier, and afterwards all reads of the layer
are answered as before: of any table whose records have been written through layers alone, if names
and options let rows say all that a record holds. -/
theorem rows_taken_back (A : RegionAlgebra) (ops : List Operation) (n : String) (l : Layer)
    (o : OpenLayer) (hl : (empty.run .none A ops).layer? n = some l) (ho : l.state = some o)
    (hq : l.source.isQuery = false) (hops : empty.RowsOnly .none A o.view.table ops) :
    let s := (empty.run .none A ops).store
    let t := s.table o.view.table
    l.can .none s "RandomWrite" = true → (l.target s o).Rereads l.reading → o.filters = .none →
    o.ignored = .none → (∀ f ∈ o.schema.fields, f.unique = true → f.subkind ≠ .boolean) →
    (∀ e ∈ t.records.entries, ∀ g, some g ∈ e.2.geometries → l.reading.ReadsBack g) →
    ∀ i k, t.records.fids[i]? = some k →
      ∃ row l' s',
        (l.reset.2.reads .none s (List.replicate (i + 1) .next))[i]? =
            some (.ok (.row (some row))) ∧
          (∀ table, (l.fetch .none s .all).1 = .ok table → table.row? i = some row) ∧
          l.replace .none s row = (.ok k, l', s') ∧
          (l'.fetch .none s' .all).1 = (l.fetch .none s .all).1 ∧
          (∀ cs, l'.reads .none s' cs = l.reads .none s cs) ∧
          (∀ cs, l'.reset.2.reads .none s' cs = l.reset.2.reads .none s cs) ∧
          (s'.table o.view.table).records.fids = t.records.fids ∧
          (s'.table o.view.table).nextFid = t.nextFid := by
  intro s t hwrite hrereads hfilters hignored hunique hback i k hi
  have hw : (empty.run .none A ops).Sound := sound_empty.run ops
  have hback := takesBack_of_run hw (candid_empty.run ops) hl ho hq
    ((typed_empty _).run sound_empty hops) hwrite hrereads hfilters hignored hunique hback
  obtain ⟨⟨_, r⟩, he, rfl⟩ := Option.map_eq_some_iff.mp ((List.getElem?_map ..).symm.trans hi)
  obtain ⟨row, hrow, hread, hfetched⟩ := hback.row_of_record he
  obtain ⟨l', s', o', hreplace, halike, hnext⟩ := hback.replace (List.mem_of_getElem? he) hrow
  exact ⟨row, l', s', hread, hfetched, hreplace, (halike.fetch .all).1, halike.reads,
    halike.reset.reads, FeatureTable.fids_of_decoded halike.decoded, hnext⟩

theorem rows_taken_back_of_point :
    let field (name : String) (kind : FieldKind) (subkind : Subkind) (unique : Bool) : Field :=
      ⟨name, kind, subkind, 0, 0, true, unique, none, false, none⟩
    let schema : Schema := ⟨[field "t" .text .none true, field "b" .integer .boolean false],
      [⟨"", "Point", true, false, none⟩]⟩
    let point : Geometry := .point ⟨Binary.ofInt 1, Binary.ofInt 2⟩
    let ops : List Operation :=
      [.create "d" (some "c"), .createLayer "c" "t" schema none,
        .openLayer "d" (.name "t") ⟨.readWrite, .empty, none, none⟩ "l",
        .layer "l" (.create ⟨[("geometry", .geometry (.wkb (point.toWkb .leastFirst))),
          ("t", .text "x")]⟩)]
    ∃ l row l' s', (empty.run .none .exact ops).layer? "l" = some l ∧
      l.replace .none (empty.run .none .exact ops).store row = (.ok 1, l', s') ∧
      (l'.fetch .none s' .all).1 = (l.fetch .none (empty.run .none .exact ops).store .all).1 := by
  intro field schema point ops
  have hopen : (((empty.run .none .exact ops).layer? "l").bind fun l =>
      l.state.map fun o => (l, o)).any (fun e =>
        !e.1.source.isQuery && e.1.can .none (empty.run .none .exact ops).store "RandomWrite" &&
          e.1.reading = .default && e.2.view.table = 0 && e.2.schema = schema &&
          e.2.filters.predicate = "" && e.2.filters.spatial.isNone && e.2.ignored = .none) =
      true := by decide +kernel
  obtain ⟨⟨l, o⟩, he, hfacts⟩ := (Option.any_eq_true _ _).mp hopen
  obtain ⟨l', hl, he⟩ := Option.bind_eq_some_iff.mp he
  obtain ⟨o', ho, he⟩ := Option.map_eq_some_iff.mp he
  cases he
  simp only [Bool.and_eq_true, Bool.not_eq_true', decide_eq_true_eq, Option.isNone_iff_eq_none]
    at hfacts
  obtain ⟨⟨⟨⟨⟨⟨⟨hq, hcan⟩, hreading⟩, htable⟩, hschema⟩, hpredicate⟩, hspatial⟩, hignored⟩ := hfacts
  have hfilters : o.filters = .none := by
    cases hf : o.filters
    simp_all [Filters.none]
  have hcolumn : ((empty.run .none .exact ops).store.table 0).fidColumn = "" := by decide +kernel
  have hfids : ((empty.run .none .exact ops).store.table 0).records.fids = [1] := by decide +kernel
  have hrereads : (l.target (empty.run .none .exact ops).store o).Rereads l.reading := by
    rw [Layer.target, htable, hschema, hreading, hcolumn]
    exact ⟨⟨by decide, .inl rfl⟩, rfl, ⟨by decide, by decide⟩, ⟨rfl, by decide⟩, by decide⟩
  have hback : ∀ e ∈ ((empty.run .none .exact ops).store.table o.view.table).records.entries,
      ∀ g, some g ∈ e.2.geometries → l.reading.ReadsBack g := by
    rw [htable, hreading]
    have hpoints : ((empty.run .none .exact ops).store.table 0).records.entries.all
        (fun e => e.2.geometries.all (Option.all fun g => g.name = "POINT" &&
          (Geometry.ofWkb? (g.toWkb .leastFirst)).any fun h =>
            h.name = "POINT" && h.points = g.points)) = true := by decide +kernel
    have hname : ∀ g : Geometry, g.name = "POINT" → ∃ p, g = .point p := by
      intro g hg
      cases g with
      | point p => exact ⟨p, rfl⟩
      | _ => simp [Geometry.name] at hg
    intro e he g hg
    have hpoint := List.all_eq_true.mp (List.all_eq_true.mp hpoints e he) _ hg
    simp only [Option.all_some, Bool.and_eq_true, decide_eq_true_eq, Option.any_eq_true] at hpoint
    obtain ⟨hg, h, hread, hh, hsame⟩ := hpoint
    obtain ⟨p, rfl⟩ := hname g hg
    obtain ⟨q, rfl⟩ := hname h hh
    obtain rfl : q = p := List.head_eq_of_cons_eq hsame
    exact hread
  obtain ⟨row, l', s', -, -, hreplace, hfetch, -⟩ := rows_taken_back .exact ops "l" l o hl ho hq
    ⟨id, id, id, id, trivial⟩ hcan hrereads hfilters hignored (by rw [hschema]; decide) hback 0 1
    (by rw [htable, hfids]; rfl)
  exact ⟨l, row, l', s', hl, hreplace, hfetch⟩

end FeatureLayer.Workspace
