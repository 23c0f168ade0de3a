import FeatureLayer.Proofs.Layer.Filters
import FeatureLayer.Proofs.Layer.Reading
import FeatureLayer.Proofs.Workspace.Step

namespace FeatureLayer

/-- Whether a record passes filters whose predicate is read with these names. -/
def Filters.admits (voc : Vocabulary) (fs : Filters) (r : Record) : Bool :=
  (match fs.predicate?.mapM (Predicate.parse voc) with
    | .ok p => p.all (·.holds (r.fid.getD Record.missingFid) r.data)
    | .error _ => false) &&
    fs.spatial.all fun f => (r.geometries.head?.join).any f.admits

theorem Filters.Installed.admits_eq {voc : Vocabulary} {fs : Filters} {v : View}
    (h : fs.Installed voc v) : v.admits = fs.admits voc := by
  funext r
  simp only [View.admits, Filters.admits, h.parsed, h.spatial]

namespace Workspace

def Steady (A : RegionAlgebra) (n : String) : Workspace → List Operation → Prop
  | _, [] => True
  | w, op :: ops =>
    (∀ l o, w.layer? n = some l → l.state = some o →
      View.vocabulary ((w.step .none A op).store.table o.view.table) =
        View.vocabulary (w.store.table o.view.table)) ∧
      Steady A n (w.step .none A op) ops

variable {A : RegionAlgebra} {w : Workspace} {n : String}

/-- What layers keep through requests and overlays, and have when they are opened, the layer of that
name has after an operation that leaves the names in its table as they are. -/
theorem layer_step {P : Store → Layer → Prop}
    (hkeeps : ∀ {s l l'}, P s l → l.Keeps false l' → P s l')
    (hrefresh : ∀ {s s' l}, P s l → P s (l.refreshSchema .none s').1)
    (hask : ∀ {s l}, P s l → ∀ r, P s (l.ask .none s r).layer)
    (hfresh : ∀ {s s₁ s₂ l}, (∀ o, l.state = some o → o.Fresh s₁ s₂ l.source) → P s l)
    (hcongr : ∀ {s s' l}, P s l → (∀ o, l.state = some o →
      View.vocabulary (s'.table o.view.table) = View.vocabulary (s.table o.view.table)) → P s' l)
    (h : ∀ l, w.layer? n = some l → P w.store l) {op : Operation}
    (hv : ∀ l o, w.layer? n = some l → l.state = some o →
      View.vocabulary ((w.step .none A op).store.table o.view.table) =
        View.vocabulary (w.store.table o.view.table)) :
    ∀ l, (w.step .none A op).layer? n = some l → P (w.step .none A op).store l := by
  intro l hl
  rcases w.step_cases .none A op with hs | ⟨a, he⟩
  · rw [hs] at hl ⊢
    exact h l hl
  · generalize w.step .none A op = w' at hl hv he ⊢
    have hkept : ∀ {l₀ l₁ : Layer}, w.layer? n = some l₀ → l₀.Keeps false l₁ → P w'.store l₁ := by
      intro l₀ l₁ hl₀ hk
      refine hcongr (hkeeps (h l₀ hl₀) hk) fun o ho => ?_
      obtain ⟨o₀, ho₀, hk⟩ := hk.state o ho
      rw [hk.table]
      exact hv l₀ o₀ hl₀ ho₀
    cases he.layerOrigin hl with
    | kept hl₀ hk => exact hkept hl₀ hk
    | refreshed hl₀ hk => exact hrefresh (hkept hl₀ hk)
    | @asked l₀ r hl₀ _ _ hs =>
      cases hc : r.closes with
      | false =>
        refine hcongr (hask (h l₀ hl₀) r) fun o ho => ?_
        obtain ⟨o₀, ho₀, hm⟩ := (Layer.ask_moves .none w.store l₀ hc).state o ho
        rw [hm.table]
        exact hv l₀ o₀ hl₀ ho₀
      | true =>
        have hreopened : ∀ o, (l₀.ask .none w.store r).layer.state = some o → o.Fresh w.store
            (l₀.ask .none w.store r).store (l₀.ask .none w.store r).layer.source := fun o ho => by
          rw [Layer.ask_source]
          exact Layer.ask_fresh .none w.store l₀ hc ho
        exact hfresh hreopened
    | opened _ _ heq => exact hfresh fun o ho => Layer.openOn_state .none w.store heq ho

def Stated (w : Workspace) (n : String) : Prop := ∀ l, w.layer? n = some l → l.Stated w.store

theorem Stated.step (h : w.Stated n) {op : Operation}
    (hv : ∀ l o, w.layer? n = some l → l.state = some o →
      View.vocabulary ((w.step .none A op).store.table o.view.table) =
        View.vocabulary (w.store.table o.view.table)) : (w.step .none A op).Stated n :=
  layer_step (P := fun s l => l.Stated s) .keeps .refreshSchema .ask Layer.stated_of_fresh .congr h hv

theorem Stated.run (h : w.Stated n) {ops : List Operation} (hs : w.Steady A n ops) :
    (w.run .none A ops).Stated n := by
  induction ops generalizing w with
  | nil => exact h
  | cons op ops ih => exact ih (h.step hs.1) hs.2

def InStep (w : Workspace) (n : String) : Prop :=
  ∀ l, w.layer? n = some l → l.source.isQuery = false → l.InStep w.store

theorem InStep.step (h : w.InStep n) {op : Operation}
    (hv : ∀ l o, w.layer? n = some l → l.state = some o →
      View.vocabulary ((w.step .none A op).store.table o.view.table) =
        View.vocabulary (w.store.table o.view.table)) : (w.step .none A op).InStep n :=
  layer_step (P := fun s l => l.source.isQuery = false → l.InStep s)
    (fun h hk hq => (h (hk.source ▸ hq)).keeps hk)
    (fun h hq => (h (Layer.refreshSchema_source .none _ _ ▸ hq)).refreshSchema)
    (fun h r hq =>
      have hq := Layer.ask_source .none _ _ r ▸ hq
      (h hq).ask hq r)
    Layer.inStep_of_fresh (fun h hv hq => (h hq).congr hv) h hv

theorem InStep.run (h : w.InStep n) {ops : List Operation} (hs : w.Steady A n ops) :
    (w.run .none A ops).InStep n := by
  induction ops generalizing w with
  | nil => exact h
  | cons op ops ih => exact ih (h.step hs.1) hs.2

/-- The filters that a layer reports are those that its view runs under, and fetching all reads the
records that pass them. -/
theorem filters_in_step (A : RegionAlgebra) (n : String) (ops : List Operation)
    (h : empty.Steady A n ops) :
    let w := empty.run .none A ops
    ∀ l o, w.layer? n = some l → l.state = some o → l.source.isQuery = false →
      let t := w.store.table o.view.table
      let voc := View.vocabulary t
      o.filters.predicate?.mapM (Predicate.parse voc) = .ok o.view.predicate ∧
        o.view.spatial = o.filters.spatial ∧
        (∀ table, (l.fetch .none w.store .all).1 = .ok table →
          table.Shows (l.plan o) l.reading
            ((t.records.values.filter (o.filters.admits voc)).map o.view.project)) ∧
        (l.interrupt = none →
          (l.plan o).fits (Faults.none.countOf w.store o.view true).toNat = true →
          ∃ table, (l.fetch .none w.store .all).1 = .ok table) := by
  have hw : (empty.run .none A ops).InStep n := InStep.run (fun l hl => by cases hl) h
  generalize empty.run .none A ops = w at hw ⊢
  intro w l o hl ho hq t voc
  have hin := hw l hl hq o ho
  refine ⟨hin.parsed, hin.spatial, fun table htable => ?_, Layer.fetch_all_ok ho⟩
  rw [← hin.admits_eq]
  exact Layer.shows_of_fetch_all ho htable

theorem filters_in_step_after_refusal :
    let w := empty.run .none .exact
      [.create "d" (some "c"), .createLayer "c" "t" .empty (some "v"),
        .openLayer "d" (.name "t") ⟨.readOnly, .empty, none, none⟩ "l",
        .layer "l" (.setPredicate " FID > 1 "), .layer "l" (.setPredicate "FID >"),
        .layer "l" (.lookup 1)]
    ∃ l o, w.layer? "l" = some l ∧ l.state = some o ∧ o.filters.predicate = "FID > 1" ∧
      o.filters.predicate?.mapM
        (Predicate.parse (View.vocabulary (w.store.table o.view.table))) = .ok o.view.predicate := by
  intro w
  have hopen : ((w.layer? "l").bind fun l => l.state.map fun o => (l, o)).any (fun e =>
      !e.1.source.isQuery && e.2.filters.predicate = "FID > 1") = true := by decide
  obtain ⟨⟨l, o⟩, he, hfacts⟩ := (Option.any_eq_true _ _).mp hopen
  obtain ⟨l', hl, he⟩ := Option.bind_eq_some_iff.mp he
  obtain ⟨o', ho, he⟩ := Option.map_eq_some_iff.mp he
  cases he
  simp only [Bool.and_eq_true, Bool.not_eq_true', decide_eq_true_eq] at hfacts
  refine ⟨l, o, hl, ho, hfacts.2, ?_⟩
  refine (filters_in_step .exact "l" _ ?_ l o hl ho hfacts.1).1
  -- only the requests to the layer find it open, and they leave the store as it is
  refine ⟨?_, ?_, ?_, ?_, ?_, ?_, trivial⟩
  · intro l o hl
    have hnone : none = some l := hl
    cases hnone
  · intro l o hl
    have hnone : none = some l := hl
    cases hnone
  · intro l o hl
    have hnone : none = some l := hl
    cases hnone
  · intro l o _ _
    rw [store_step_layer fun _ _ => rfl]
  · intro l o _ _
    rw [store_step_layer fun _ _ => rfl]
  · intro l o _ _
    rw [store_step_layer fun _ _ => rfl]

end Workspace

end FeatureLayer
