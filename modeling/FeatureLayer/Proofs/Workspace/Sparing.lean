import FeatureLayer.Proofs.Layer.Tracking
import FeatureLayer.Proofs.Workspace.Ignoring

namespace FeatureLayer

namespace Workspace

variable {f : Faults} {A : RegionAlgebra} {w : Workspace}

def Tracks (w : Workspace) : Prop :=
  ∀ n l o, w.layer? n = some l → l.state = some o → o.Tracks (w.store.table o.view.table)

theorem Tracks.step (h : w.Tracks) (op : Operation) : (w.step f A op).Tracks := by
  intro n l o hl ho
  have hgrows := w.grows_step f A op
  rcases w.step_cases f A op with hs | ⟨a, he⟩
  · rw [hs] at hl ⊢
    exact h n l o hl ho
  · generalize w.step f A op = w' at hl hgrows he ⊢
    cases he.openOrigin hl ho with
    | @moved _ o₀ _ hl₀ ho₀ hm =>
      rw [hm.table]
      exact (h n _ o₀ hl₀ ho₀).congr (hgrows _) hm.schema hm.shown_eq
    | @refreshed _ o₀ o₁ _ _ hl₀ ho₀ hm =>
      have htracks := (h n _ o₀ hl₀ ho₀).congr (hgrows _) hm.schema hm.shown_eq
      rw [← hm.table] at htracks
      have hdefined := f.defined_inspect w'.store o₁.view
      refine ⟨.of_eq (hdefined _).symm, htracks.told.mono (.refl _) (Layer.storeNames_subset ?_ _)⟩
      rw [hdefined]
      exact htracks.grows
    | @told _ o₀ names view hl₀ ho₀ _ _ hv hs =>
      have hview : view.table = o₀.view.table := by
        rcases f.ignoreFields_cases w.store o₀.view _ with ⟨e, d, heq⟩ | ⟨i, heq, -⟩
        · cases heq.symm.trans hv
        · cases heq.symm.trans hv
          rfl
      rw [hs]
      refine ⟨hview ▸ (h n _ o₀ hl₀ ho₀).grows, ?_⟩
      show view.ignored.BearOneOf _ (w.store.table view.table).schema
      rw [hview]
      exact Faults.bearOneOf_ignoreFields hv
    | opened _ _ hi hv hschema =>
      refine ⟨.of_eq (Schema.defined_of_bare hschema).symm, ?_⟩
      rw [hv]
      exact IgnoredFields.bearOneOf_none _ _

theorem Tracks.run (h : w.Tracks) (ops : List Operation) : (w.run f A ops).Tracks := by
  induction ops generalizing w with
  | nil => exact h
  | cons op ops ih => exact ih (h.step op)

theorem tracks_empty : empty.Tracks := fun _ _ _ hl => by cases hl

/-- Where names tell the columns apart, a layer answers reads as if it left nothing out, but for the
columns of the fields that the last accepted request left out; a geometry without a name is left out
only together with the first. -/
theorem ignoring_spares_other_columns (A : RegionAlgebra) (n : String) (ops : List Operation) :
    let w := empty.run .none A ops
    let left := leftOut .none A n empty .none ops
    ∀ l o, w.layer? n = some l → l.state = some o →
      o.schema.Unambiguous l.reading.unnamedGeometry → o.schema.FirstToo left →
      let whole := l.withState o.readingAll
      let names := (o.schema.columnsBut l.reading.unnamedGeometry left).map (·.1)
      (∀ l', l.setIgnored .none w.store [] = (.ok (), l') → l' = whole) ∧
        ∀ rs : List LayerRequest, (∀ r ∈ rs, r.browses = true) →
          (∀ room, .error (.allocation room) ∉ whole.answers .none w.store rs) →
          l.answers .none w.store rs =
            (whole.answers .none w.store rs).map (Except.map (·.only names)) := by
  intro w left l o hl ho hn hfirst whole names
  have htracks : w.Tracks := tracks_empty.run ops
  have hleaves : w.Leaves n left :=
    Leaves.run (f := .none) (A := A) (fun l o hl => by cases hl) ops
  have hleft : o.ignored = left := hleaves l o hl ho
  have hspares : Layer.Spares names l whole o := by
    refine ⟨ho, rfl, ?_⟩
    have h := (htracks n l o hl ho).spares hn (hleft ▸ hfirst)
    rwa [hleft] at h
  refine ⟨fun l' hset => ?_, fun rs hrs hroom => hspares.answers hrs hroom⟩
  cases hcan : Faults.none.viewCan w.store o.view "IgnoreFields" with
  | true =>
    rw [Layer.setIgnored_nil ho hcan rfl] at hset
    exact (Prod.mk.inj hset).2.symm
  | false =>
    unfold Layer.setIgnored at hset
    simp only [ho, hcan] at hset
    cases hset

def twoGeometries : List Operation :=
  let field : Field := ⟨"a", .integer, .none, 0, 0, true, false, none, false, none⟩
  let point (n : Int) : Geometry := .point ⟨Binary.ofInt n, Binary.ofInt n⟩
  [.create "d" (some "c"),
    .createLayer "c" "t" ⟨[field], [⟨"shape", "Point", true, false, none⟩,
      ⟨"", "Point", true, false, none⟩]⟩ (some "v"),
    .view "v" (.create ⟨none, [.integer 7], [some (point 1), some (point 3)]⟩),
    .openLayer "d" (.name "t") ⟨.readOnly, .empty, none, none⟩ "l"]

theorem ignoring_spares_other_columns_of_two :
    let ops := twoGeometries ++ [.layer "l" (.setIgnored ["shape", "a"])]
    let w := empty.run .none .exact ops
    ∃ l o row, w.layer? "l" = some l ∧ l.state = some o ∧
      (l.withState o.readingAll).answers .none w.store [.next] = [.ok (.row (some row))] ∧
      row.names = ["FID", "a", "shape", "geometry"] ∧
      l.answers .none w.store [.next] = [.ok (.row (some (row.only ["FID", "geometry"])))] := by
  intro ops w
  have hopen : ((w.layer? "l").bind fun l => l.state.map fun o => (l, o)).any (fun e =>
      (e.2.schema.names e.1.reading.unnamedGeometry) = ["a", "shape", "geometry"] &&
        (e.2.schema.columnsBut e.1.reading.unnamedGeometry ⟨[0], [0]⟩).map (·.1) =
          ["FID", "geometry"] &&
        ((e.1.withState e.2.readingAll).next .none w.store).1.toOption.join.any fun row =>
          row.names = ["FID", "a", "shape", "geometry"]) = true := by decide +kernel
  obtain ⟨⟨l, o⟩, he, hfacts⟩ := (Option.any_eq_true _ _).mp hopen
  obtain ⟨l₀, hl, he⟩ := Option.bind_eq_some_iff.mp he
  obtain ⟨o₀, ho, he⟩ := Option.map_eq_some_iff.mp he
  cases he
  simp only [Bool.and_eq_true, decide_eq_true_eq] at hfacts
  obtain ⟨⟨hschema, hcolumns⟩, hrow⟩ := hfacts
  obtain ⟨row, hrow, hnames⟩ := (Option.any_eq_true _ _).mp hrow
  have hleft : leftOut .none .exact "l" empty .none ops = ⟨[0], [0]⟩ := by decide +kernel
  have hnext : ((l.withState o.readingAll).next .none w.store).1 = .ok (some row) := by
    cases hread : ((l.withState o.readingAll).next .none w.store).1 with
    | error e =>
      rw [hread] at hrow
      cases hrow
    | ok found =>
      rw [hread] at hrow
      exact congrArg Except.ok hrow
  have hwhole : (l.withState o.readingAll).answers .none w.store [.next] =
      [.ok (.row (some row))] := congrArg (fun e => [Except.map Reply.row e]) hnext
  obtain ⟨-, hspared⟩ := ignoring_spares_other_columns .exact "l" ops l o hl ho
    ⟨by rw [hschema]; decide, by rw [hschema]; decide⟩
    (by rw [hleft]; exact fun _ _ _ _ _ => List.mem_singleton_self 0)
  have hanswers := hspared [.next] (by decide) (by rw [hwhole]; simp)
  rw [hwhole, hleft, hcolumns] at hanswers
  exact ⟨l, o, row, hl, ho, hwhole, of_decide_eq_true hnames, hanswers⟩

/-- A geometry without a name is left out by the word for the first geometry, which then reads as
missing though it is not left out. -/
theorem ignoring_unnamed_blanks_first :
    let w := empty.run .none .exact (twoGeometries ++ [.layer "l" (.setIgnored ["geometry"])])
    leftOut .none .exact "l" empty .none
        (twoGeometries ++ [.layer "l" (.setIgnored ["geometry"])]) = ⟨[], [1]⟩ ∧
      (w.layer? "l").bind (fun l => l.state.map fun o =>
        let shape (l : Layer) : Option Value :=
          (l.next .none w.store).1.toOption.join.bind (·.find? "shape")
        (shape l, (shape (l.withState o.readingAll)).map (·.isNull))) =
      some (some .null, some false) := by
  decide +kernel

end Workspace

end FeatureLayer
