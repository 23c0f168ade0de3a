import FeatureLayer.Proofs.Layer.Selecting
import FeatureLayer.Proofs.Workspace.Ignoring

namespace FeatureLayer

theorem OpenLayer.Plain.grows {t : FeatureTable} {o : OpenLayer} (h : o.Plain t) :
    o.schema.defined.Grows t.schema.defined := by
  have hbare : ∀ s : Schema, s.bare.defined = s.defined := fun s => by
    simp [Schema.bare, Schema.defined]
  have hgrows := h.schema.defined
  rwa [hbare, hbare] at hgrows

namespace Layer

variable {f : Faults} {s : Store} {l : Layer} {o : OpenLayer}

theorem setSelected_spec (ho : l.state = some o) (hp : o.Plain (s.table o.view.table))
    (hcan : f.viewCan s o.view "IgnoreFields" = true) (hf : f.ignore = none)
    (h : o.schema.ToldApart l.reading.unnamedGeometry) {names : List String}
    (hknown : ∀ x ∈ names, o.schema.knows l.reading.unnamedGeometry x = true) :
    let beside := o.schema.namesBeside l.reading.unnamedGeometry names
    ∃ o', l.setSelected f s names = (.ok (), l.withState o') ∧
      o'.view = { o.view with ignored := o'.view.ignored } ∧
      o' = { o with
        view := o'.view, ignored := o.schema.named l.reading.unnamedGeometry beside } ∧
      o'.Plain (s.table o.view.table) ∧ (l.withState o').ignoredNames = .ok beside ∧
      (l.withState o').setIgnored f s beside = (.ok (), l.withState o') := by
  intro beside
  have hbeside : ∀ x ∈ beside,
      (fieldOfName? o.schema l.reading.unnamedGeometry x).isSome = true := by
    intro x hx
    rw [← h.selectedOfName?_eq, Schema.isSome_selectedOfName?, Schema.knows, Bool.or_eq_true]
    refine .inl (List.contains_iff_mem.mpr (Schema.ToldApart.namesBut_subset _ _
      (o.schema.selected l.reading.unnamedGeometry names) ?_))
    rwa [h.namesBut_selected]
  have hstore : ∀ x ∈ storeNames o.schema (o.schema.named l.reading.unnamedGeometry beside),
      (View.ignoredField? (s.table o.view.table).schema x).isSome = true := fun x hx =>
    View.isSome_ignoredField? hp.grows hx
  obtain ⟨j, hj⟩ := View.ignore_of_known hstore
  have htold : ∀ v : View, v.table = o.view.table → f.ignoreFields s v
      (storeNames o.schema (o.schema.named l.reading.unnamedGeometry beside)) =
        (.ok (), { v with ignored := j }) := by
    intro v hv
    unfold Faults.ignoreFields
    rw [hf]
    simp only [hv, hj]
  have hset := setIgnored_of_known ho hcan hbeside (htold o.view rfl)
  let o' : OpenLayer :=
    { o with
      view := { o.view with ignored := j }
      ignored := o.schema.named l.reading.unnamedGeometry beside }
  refine ⟨o', (setSelected_of_known ho h hknown).trans hset, rfl, rfl, hp.congr (.refl _) ?_ rfl, ?_, ?_⟩
  · have hkept := (setIgnored_keeps f s l beside).state o' (by rw [hset]; rfl)
    obtain ⟨o₁, ho₁, hk⟩ := hkept
    obtain rfl := Option.some.inj (ho.symm.trans ho₁)
    exact hk.toMoves.whole hp.whole
  · exact congrArg Except.ok (h.names_at_named_namesBeside names)
  · -- the view that leaves fields out already is told the same
    exact setIgnored_of_known (l := l.withState o') (o := o') rfl hcan hbeside (htold o'.view rfl)

end Layer

namespace Workspace

/-- A layer that can leave fields out, and that knows them by names of their own, refuses to select a
name that it does not know. Otherwise it reads the fields that are named, in the order of its schema,
and says that it leaves out the others; to leave out just these changes nothing more. -/
theorem selecting_complements_ignoring (f : Faults) (A : RegionAlgebra) (n : String)
    (ops : List Operation) (h : empty.OverlaidWhole f A n .none ops) :
    let w := empty.run f A ops
    ∀ l o, w.layer? n = some l → l.state = some o →
      f.viewCan w.store o.view "IgnoreFields" = true → f.ignore = none →
      l.reading.geometryFormat ≠ .none →
      (∀ x ∈ (w.store.table o.view.table).schema.fields, x.ignored = false) →
      let unnamed := l.reading.unnamedGeometry
      o.schema.ToldApart unnamed → ∀ names : List String,
        (∀ x, (names.find? fun x => !o.schema.knows unnamed x) = some x →
          l.setSelected f w.store names =
            (.error (.unmappedField x (w.store.table o.view.table).name), l)) ∧
        ((∀ x ∈ names, o.schema.knows unnamed x = true) →
          ∃ l' o', l.setSelected f w.store names = (.ok (), l') ∧ l'.state = some o' ∧
            (l'.plan o').columns = o.schema.columnsOf unnamed names ∧
            (∀ size table, (l'.fetch f w.store size).1 = .ok table →
              table.names = (o.schema.columnsOf unnamed names).map (·.1)) ∧
            (f = .none → l.interrupt = none →
              (l'.plan o').fits (Faults.none.countOf w.store o'.view true).toNat = true →
              ∃ table, (l'.fetch f w.store .all).1 = .ok table) ∧
            l'.ignoredNames = .ok (o.schema.namesBeside unnamed names) ∧
            l'.setIgnored f w.store (o.schema.namesBeside unnamed names) = (.ok (), l')) := by
  have hnone : empty.Leaves n .none := fun l o hl => by cases hl
  have hplain := Plain.run (n := n) (fun l o hl => by cases hl) hnone h
  generalize empty.run f A ops = w at hplain ⊢
  intro w l o hl ho hcan hf hformat hfields unnamed happart names
  refine ⟨fun x hx => Layer.setSelected_of_unknown ho hx, fun hknown => ?_⟩
  obtain ⟨o', hset, -, hkept, hp, hnames, hagain⟩ :=
    Layer.setSelected_spec ho (hplain l o hl ho) hcan hf happart hknown
  have hcolumns : ((l.withState o').plan o').columns = o.schema.columnsOf unnamed names := by
    have hplan := hp.columns_plan (l := l.withState o') hfields hformat
    rw [show o'.schema = o.schema by rw [hkept],
      show o'.ignored = o.schema.named unnamed (o.schema.namesBeside unnamed names) by rw [hkept]]
      at hplan
    exact hplan.trans (happart.columnsBut_named_namesBeside names)
  refine ⟨l.withState o', o', hset, rfl, hcolumns, fun size table htable => ?_, fun hnone hi hroom => ?_,
    hnames, hagain⟩
  · rw [Layer.names_of_fetch_eq_ok rfl htable, ReadPlan.names, hcolumns]
  · subst hnone
    exact Layer.fetch_all_ok rfl hi hroom

def twoAttributes : List Operation :=
  let field (name : String) : Field := ⟨name, .integer, .none, 0, 0, true, false, none, false, none⟩
  [.create "d" (some "c"),
    .createLayer "c" "t" ⟨[field "a", field "b"], [⟨"", "Point", true, false, none⟩]⟩ none,
    .openLayer "d" (.name "t") ⟨.readOnly, .empty, none, none⟩ "l"]

theorem selecting_complements_ignoring_of_two :
    let w := empty.run .none .exact twoAttributes
    ∃ l l' table, w.layer? "l" = some l ∧
      l.setSelected .none w.store ["b", "c"] = (.error (.unmappedField "c" "t"), l) ∧
      l.setSelected .none w.store ["ogr_geometry", "b", "b"] = (.ok (), l') ∧
      l'.ignoredNames = .ok ["a"] ∧ l'.setIgnored .none w.store ["a"] = (.ok (), l') ∧
      (l'.fetch .none w.store .all).1 = .ok table ∧ table.names = ["FID", "b", "geometry"] := by
  intro w
  let chosen := ["ogr_geometry", "b", "b"]
  have hopen : (w.openLayer? "l").any (fun e =>
      let unnamed := e.1.reading.unnamedGeometry
      let t := w.store.table e.2.view.table
      (Faults.none.viewCan w.store e.2.view "IgnoreFields" && e.1.reading.geometryFormat ≠ .none &&
        t.schema.fields.all (!·.ignored) && t.name = "t") &&
      ((e.2.schema.names unnamed).Nodup &&
        (e.2.schema.names unnamed).all (!Text.sameWord · Layer.geometryWord)) &&
      ((["b", "c"].find? fun x => !e.2.schema.knows unnamed x) = some "c" &&
        chosen.all (e.2.schema.knows unnamed ·) &&
        (e.2.schema.columnsOf unnamed chosen).map (·.1) = ["FID", "b", "geometry"] &&
        e.2.schema.namesBeside unnamed chosen = ["a"] &&
        ((e.1.setSelected .none w.store chosen).2.fetch .none w.store .all).1.toOption.isSome)) =
      true := by decide +kernel
  obtain ⟨l, o, hl, ho, hfacts⟩ := exists_of_openLayer?_any hopen
  simp only [Bool.and_eq_true, decide_eq_true_eq, List.all_eq_true, Bool.not_eq_true'] at hfacts
  obtain ⟨⟨⟨⟨⟨hcan, hformat⟩, hfields⟩, hname⟩, hnodup, hword⟩,
    ⟨⟨⟨hunknown, hknown⟩, hcolumns⟩, hbeside⟩, hfetch⟩ := hfacts
  have hwhole : empty.OverlaidWhole .none .exact "l" .none twoAttributes := by decide
  have hselect := selecting_complements_ignoring .none .exact "l" twoAttributes hwhole l o hl ho hcan
    rfl hformat hfields ⟨hnodup, hword⟩
  obtain ⟨l', o', hset, -, -, hnames, -, hignored, hagain⟩ := (hselect chosen).2 hknown
  rw [hset] at hfetch
  obtain ⟨table, htable⟩ : ∃ table, (l'.fetch .none w.store .all).1 = .ok table := by
    generalize (l'.fetch .none w.store .all).1 = answer at hfetch
    cases answer with
    | error e => cases hfetch
    | ok table => exact ⟨table, rfl⟩
  rw [hbeside] at hignored hagain
  refine ⟨l, l', table, hl, ?_, hset, hignored, hagain, htable, (hnames .all table htable).trans hcolumns⟩
  rw [(hselect ["b", "c"]).1 "c" hunknown, hname]

end Workspace

end FeatureLayer
