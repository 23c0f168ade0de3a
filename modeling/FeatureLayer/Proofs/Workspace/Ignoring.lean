import FeatureLayer.Proofs.Layer.Ignoring
import FeatureLayer.Proofs.Layer.Reading
import FeatureLayer.Proofs.Workspace.Step

namespace FeatureLayer

def LayerRequest.left? (s : Schema) (unnamed : String) : LayerRequest → Option IgnoredFields
  | .reopen _ => some .none
  | .setIgnored names => some (s.named unnamed names)
  | .setSelected names => some (s.named unnamed (s.namesBut unnamed (s.selected unnamed names)))
  | _ => none

namespace Workspace

def left? (w : Workspace) (n : String) : Operation → Option IgnoredFields
  | .openLayer _ _ _ m => if m = n then some .none else none
  | .layer m r =>
    if m = n then
      (w.layer? n).bind fun l =>
        r.left? ((l.state.map (·.schema)).getD .empty) l.reading.unnamedGeometry
    else none
  | _ => none

variable (f : Faults) (A : RegionAlgebra)

def leftAfter (w : Workspace) (n : String) (left : IgnoredFields) (op : Operation) : IgnoredFields :=
  if w.grants f A op then (w.left? n op).getD left else left

/-- What the layer of that name leaves out after a run: what the last granted operation says that says
anything of it. -/
def leftOut (n : String) : Workspace → IgnoredFields → List Operation → IgnoredFields
  | _, left, [] => left
  | w, left, op :: ops => leftOut n (w.step f A op) (w.leftAfter f A n left op) ops

/-- No overlay into the layer of that name is granted while the layer leaves fields out. -/
def OverlaidWhole (n : String) : Workspace → IgnoredFields → List Operation → Prop
  | _, _, [] => True
  | w, left, op :: ops =>
    (op.result? = some n → w.grants f A op = true → left = .none) ∧
      OverlaidWhole n (w.step f A op) (w.leftAfter f A n left op) ops

instance decidableOverlaidWhole (n : String) : (w : Workspace) → (left : IgnoredFields) →
    (ops : List Operation) → Decidable (OverlaidWhole f A n w left ops)
  | _, _, [] => inferInstanceAs (Decidable True)
  | w, left, op :: ops =>
    have := decidableOverlaidWhole n (w.step f A op) (w.leftAfter f A n left op) ops
    inferInstanceAs (Decidable ((op.result? = some n → w.grants f A op = true → left = .none) ∧ _))

variable {f : Faults} {A : RegionAlgebra} {w w' : Workspace} {op : Operation} {a : Answer} {n : String}
  {left : IgnoredFields}

theorem leftAfter_of_perform (h : w.perform f A op = some (a, w')) (n : String)
    (left : IgnoredFields) :
    w.leftAfter f A n left op = if a.granted then (w.left? n op).getD left else left := by
  simp [leftAfter, grants, h]

theorem leftAfter_of_perform_eq_none (h : w.perform f A op = none) (n : String)
    (left : IgnoredFields) : w.leftAfter f A n left op = left := by
  simp [leftAfter, grants, h]

theorem left?_of_not_addresses (h : op.addresses n = false) : w.left? n op = none := by
  cases op with
  | openLayer _ _ _ m | layer m _ => exact if_neg (of_decide_eq_false h)
  | _ => rfl

variable (f) (A) (w) (op) in
/-- Tables keep the definitions that they have. -/
theorem grows_step (i : Nat) :
    (w.store.table i).schema.Grows ((w.step f A op).store.table i).schema := by
  rcases w.step_store f A op with hw | ⟨d, c, ht⟩
  · exact hw.grows i
  · exact ht.grows i

/-! ### Where an open layer comes from -/

/-- What was open before an operation, and what has become of it, or that it was not open. -/
inductive OpenOrigin (f : Faults) (w : Workspace) (op : Operation) (a : Answer) (s' : Store)
    (n : String) : OpenLayer → Prop
  | moved {l : Layer} {o o' : OpenLayer} (hl : w.layer? n = some l) (ho : l.state = some o)
      (hm : o.Moves false o') (hop : a.granted = true → w.left? n op = none) :
      OpenOrigin f w op a s' n o'
  | refreshed {l : Layer} {o o' : OpenLayer} {unnamed : String} {fieldNames : List String}
      (hl : w.layer? n = some l) (ho : l.state = some o) (hm : o.Moves false o')
      (hop : op.result? = some n) (ha : a.granted = true) (hleft : w.left? n op = none) :
      OpenOrigin f w op a s' n { o' with schema := (f.inspect s' o'.view unnamed).1, fieldNames }
  | told {l : Layer} {o : OpenLayer} {names : List String} {view : View}
      (hl : w.layer? n = some l) (ho : l.state = some o)
      (hop : w.left? n op = some (o.schema.named l.reading.unnamedGeometry names))
      (ha : a.granted = true)
      (hv : f.ignoreFields w.store o.view
        (Layer.storeNames o.schema (o.schema.named l.reading.unnamedGeometry names)) = (.ok (), view))
      (hs : s' = w.store) :
      OpenOrigin f w op a s' n
        { o with view, ignored := o.schema.named l.reading.unnamedGeometry names }
  | opened {o : OpenLayer} (hop : w.left? n op = some .none) (ha : a.granted = true)
      (hi : o.ignored = .none) (hv : o.view.ignored = .none)
      (hschema : o.schema.bare = (s'.table o.view.table).schema.bare)
      (hshown : ∀ g ∈ o.schema.geometryFields, g.ignored = false) : OpenOrigin f w op a s' n o

theorem openOrigin_of_ask {l : Layer} {r : LayerRequest} {o : OpenLayer} (hl : w.layer? n = some l)
    (ha : a.value = (l.ask f w.store r).value) (ho : (l.ask f w.store r).layer.state = some o) :
    OpenOrigin f w (.layer n r) a (l.ask f w.store r).store n o := by
  have hleft : w.left? n (.layer n r) =
      r.left? ((l.state.map (·.schema)).getD .empty) l.reading.unnamedGeometry := by
    simp [left?, hl]
  -- a request that is refused leaves out what was left out
  have hrefused : ∀ {e : Error} (l' : Layer), a.value = .error e → l.Keeps false l' →
      l'.state = some o → OpenOrigin f w (.layer n r) a (l.ask f w.store r).store n o := by
    intro e l' hvalue hk ho'
    obtain ⟨o₀, ho₀, hk⟩ := hk.state o ho'
    refine .moved hl ho₀ hk.toMoves fun hg => ?_
    rw [Answer.granted, hvalue] at hg
    cases hg
  have hnamed : ∀ names : List String,
      (l.ask f w.store r).layer = (l.setIgnored f w.store names).2 →
      (l.ask f w.store r).value = (l.setIgnored f w.store names).1.map (fun _ => .done) →
      (l.ask f w.store r).store = w.store →
      (∀ o₀, l.state = some o₀ →
        w.left? n (.layer n r) = some (o₀.schema.named l.reading.unnamedGeometry names)) →
      OpenOrigin f w (.layer n r) a (l.ask f w.store r).store n o := by
    intro names hlayer hvalue hstore hnames
    rw [hlayer] at ho
    rcases l.setIgnored_cases f w.store names with ⟨⟨e, he⟩, hk⟩ | ⟨o₀, view, ho₀, hv, heq⟩
    · rw [hvalue, he] at ha
      exact hrefused _ ha hk ho
    · rw [heq] at ho hvalue
      obtain rfl := Option.some.inj ho
      exact .told hl ho₀ (hnames o₀ ho₀) (by rw [Answer.granted, ha, hvalue]; rfl) hv hstore
  cases r with
  | reopen access =>
    have hf := (Layer.reopen_state f w.store l access).2 o ho
    have hok : a.value = .ok .done := by
      rw [ha]
      exact congrArg (Except.map fun _ => Reply.done) (Layer.reopen_ok ho)
    exact .opened hleft (by rw [Answer.granted, hok]) hf.ignored hf.isNew.ignored hf.schema hf.shown
  | setIgnored names =>
    refine hnamed names rfl rfl rfl fun o₀ ho₀ => ?_
    rw [hleft, ho₀]
    rfl
  | setSelected names =>
    rcases l.setSelected_cases f w.store names with ⟨⟨e, he⟩, hk⟩ | ⟨o₀, ho₀, heq⟩
    · refine hrefused l (ha.trans (congrArg (Except.map fun _ => Reply.done) he)) (.refl l) ?_
      rw [← hk]
      exact ho
    · refine hnamed _ (congrArg (·.2) heq) (congrArg (fun p => p.1.map fun _ => Reply.done) heq) rfl
        fun o₁ ho₁ => ?_
      obtain rfl := Option.some.inj (ho₀.symm.trans ho₁)
      rw [hleft, ho₀]
      rfl
  | close => cases (Layer.close_state w.store l).1.symm.trans ho
  | _ =>
    obtain ⟨o₀, ho₀, hm⟩ := (l.ask_moves f w.store rfl).state o ho
    exact .moved hl ho₀ hm fun _ => hleft

theorem Effect.openOrigin (h : Effect f A w op a w') {l : Layer} {o : OpenLayer}
    (hl : w'.layer? n = some l) (ho : l.state = some o) : OpenOrigin f w op a w'.store n o := by
  cases h.layerOrigin hl with
  | kept hl₀ hk hop =>
    obtain ⟨o₀, ho₀, hk⟩ := hk.state o ho
    exact .moved hl₀ ho₀ hk.toMoves fun ha => left?_of_not_addresses (hop ha)
  | refreshed hl₀ hk hop ha =>
    obtain ⟨o₁, _, ho₁, rfl⟩ := Layer.refreshSchema_state f _ ho
    obtain ⟨o₀, ho₀, hk⟩ := hk.state o₁ ho₁
    refine .refreshed hl₀ ho₀ hk.toMoves hop ha ?_
    cases op with
    | overlay => rfl
    | _ => cases hop
  | asked hl₀ hop ha hs =>
    subst hop
    rw [hs]
    exact openOrigin_of_ask hl₀ ha ho
  | @opened _ _ _ _ _ s₁ hop ha heq _ htables =>
    subst hop
    have hf := Layer.openOn_state f w.store heq ho
    have htable : w'.store.table o.view.table = s₁.table o.view.table := by
      rw [Store.table, htables]
      rfl
    exact .opened (if_pos rfl) ha hf.ignored hf.isNew.ignored (by rw [htable]; exact hf.schema)
      hf.shown

/-! ### What is left out after a run -/

def Leaves (w : Workspace) (n : String) (left : IgnoredFields) : Prop :=
  ∀ l o, w.layer? n = some l → l.state = some o → o.ignored = left

theorem Leaves.step (h : w.Leaves n left) (op : Operation) :
    (w.step f A op).Leaves n (w.leftAfter f A n left op) := by
  intro l o hl ho
  cases hp : w.perform f A op with
  | none =>
    rw [step_of_perform_eq_none f A hp] at hl
    rw [leftAfter_of_perform_eq_none hp]
    exact h l o hl ho
  | some p =>
    obtain ⟨a, w'⟩ := p
    rw [step_of_perform f A hp] at hl
    rw [leftAfter_of_perform hp]
    cases (effect_of_perform hp).openOrigin hl ho with
    | moved hl₀ ho₀ hm hop =>
      rw [hm.shown_eq.1, h _ _ hl₀ ho₀]
      split
      next ha =>
        rw [hop ha]
        rfl
      next => rfl
    | refreshed hl₀ ho₀ hm _ _ hleft =>
      rw [hleft, Option.getD_none, ite_self]
      exact hm.shown_eq.1.trans (h _ _ hl₀ ho₀)
    | told _ _ hop ha =>
      rw [if_pos ha, hop]
      rfl
    | opened hop ha hi =>
      rw [if_pos ha, hop]
      exact hi

theorem Leaves.run (h : w.Leaves n left) (ops : List Operation) :
    (w.run f A ops).Leaves n (leftOut f A n w left ops) := by
  induction ops generalizing w left with
  | nil => exact h
  | cons op ops ih => exact ih (h.step op)

end Workspace

/-! ### The columns of reads -/

/-- The schema of the layer says no more of its fields being left out than the table does, which says
nothing of geometries. -/
structure OpenLayer.Plain (t : FeatureTable) (o : OpenLayer) : Prop where
  whole : o.Whole
  schema : o.schema.bare.Grows t.schema.bare
  shown : ∀ g ∈ o.schema.geometryFields, g.ignored = false

namespace OpenLayer.Plain

variable {t t' : FeatureTable} {o o' : OpenLayer}

theorem congr (h : o.Plain t) (ht : t.schema.Grows t'.schema) (hw : o'.Whole)
    (hs : o'.schema = o.schema) : o'.Plain t' :=
  ⟨hw, hs ▸ h.schema.trans ht.bare, hs ▸ h.shown⟩

theorem of_bare_eq (hw : o.Whole) (h : o.schema.bare = t.schema.bare)
    (hg : ∀ g ∈ o.schema.geometryFields, g.ignored = false) : o.Plain t :=
  ⟨hw, .of_eq h.symm, hg⟩

theorem columns_plan {l : Layer} (h : o.Plain t) (ht : ∀ x ∈ t.schema.fields, x.ignored = false)
    (hformat : l.reading.geometryFormat ≠ .none) :
    (l.plan o).columns = o.schema.columnsBut l.reading.unnamedGeometry o.ignored := by
  have hfields : ∀ x ∈ o.schema.fields, x.ignored = false := by
    intro x hx
    rcases h.schema.fields with hnil | heq
    · have hnil : o.schema.fields = [] := hnil
      rw [hnil] at hx
      cases hx
    · have heq : t.schema.fields = o.schema.fields := heq
      exact ht x (heq ▸ hx)
  have hattributes : ReadPlan.attributeColumns o.schema o.ignored =
      (o.schema.fields.zipIdx.filter fun e => !o.ignored.attributes.contains e.2).map fun e =>
        (e.1.name, .attribute e.2 e.1.kind e.1.subkind) := by
    rw [ReadPlan.attributeColumns, filterMap_ite_none]
    refine congrArg _ (List.filter_congr fun e he => ?_)
    rw [hfields e.1 (List.fst_mem_of_mem_zipIdx he), Bool.false_or]
  have hgeometries :
      ReadPlan.geometryColumns o.schema o.ignored l.reading.unnamedGeometry =
      (o.schema.geometryFields.zipIdx.filter fun e => !o.ignored.geometries.contains e.2).map
        fun e => (e.1.displayName l.reading.unnamedGeometry, .geometry e.2) := by
    rw [ReadPlan.geometryColumns, filterMap_ite_none]
    refine congrArg _ (List.filter_congr fun e he => ?_)
    rw [h.shown e.1 (List.fst_mem_of_mem_zipIdx he), Bool.false_or]
  rw [Layer.plan, ReadPlan.make, if_neg hformat, hattributes, hgeometries]
  rfl

end OpenLayer.Plain

namespace Workspace

variable {f : Faults} {A : RegionAlgebra} {w : Workspace} {op : Operation} {n : String}
  {left : IgnoredFields}

def Plain (w : Workspace) (n : String) : Prop :=
  ∀ l o, w.layer? n = some l → l.state = some o → o.Plain (w.store.table o.view.table)

theorem Plain.step (h : w.Plain n) (hleaves : w.Leaves n left)
    (hop : op.result? = some n → w.grants f A op = true → left = .none) :
    (w.step f A op).Plain n := by
  intro l o hl ho
  have hgrows := w.grows_step f A op
  cases hp : w.perform f A op with
  | none =>
    rw [step_of_perform_eq_none f A hp] at hl ⊢
    exact h l o hl ho
  | some p =>
    obtain ⟨a, w'⟩ := p
    have hgrants : w.grants f A op = a.granted := by simp [grants, hp]
    rw [step_of_perform f A hp] at hl hgrows ⊢
    cases (effect_of_perform hp).openOrigin hl ho with
    | @moved _ o₀ _ hl₀ ho₀ hm =>
      have h₀ := h _ o₀ hl₀ ho₀
      rw [hm.table]
      exact h₀.congr (hgrows _) (hm.whole h₀.whole) hm.schema
    | @refreshed _ o₀ o₁ _ _ hl₀ ho₀ hm hresult ha =>
      have hnone : o₁.ignored = .none := by
        rw [hm.shown_eq.1, hleaves _ o₀ hl₀ ho₀]
        exact hop hresult (hgrants.trans ha)
      have hwhole := hm.whole (h _ o₀ hl₀ ho₀).whole
      exact .of_bare_eq hwhole (f.bare_inspect _ (hwhole hnone) _)
        (f.shown_inspect _ (hwhole hnone) _)
    | @told _ o₀ names view hl₀ ho₀ _ _ hv hs =>
      have h₀ := h _ o₀ hl₀ ho₀
      rw [hs]
      rcases f.ignoreFields_cases w.store o₀.view _ with ⟨e, d, heq⟩ | ⟨i, heq, hnone⟩
      · cases heq.symm.trans hv
      · cases heq.symm.trans hv
        refine ⟨fun hleft => hnone ?_, h₀.schema, h₀.shown⟩
        -- with no field left out there are no names to tell the view
        have hleft : o₀.schema.named _ names = .none := hleft
        rw [hleft]
        rfl
    | opened _ _ hi hv hschema hshown => exact .of_bare_eq (fun _ => hv) hschema hshown

theorem Plain.run (h : w.Plain n) (hleaves : w.Leaves n left) {ops : List Operation}
    (hops : w.OverlaidWhole f A n left ops) : (w.run f A ops).Plain n := by
  induction ops generalizing w left with
  | nil => exact h
  | cons op ops ih => exact ih (h.step hleaves hops.1) (hleaves.step op) hops.2

/-- A read of the layer has the columns of the schema that the layer knows, but for the fields that the
last accepted request left out, as long as no overlay into the layer succeeded while any were. To leave
out none is accepted, and brings all columns back. -/
theorem columns_follow_last_ignoring (f : Faults) (A : RegionAlgebra) (n : String)
    (ops : List Operation) (h : empty.OverlaidWhole f A n .none ops) :
    let w := empty.run f A ops
    let left := leftOut f A n empty .none ops
    ∀ l o, w.layer? n = some l → l.state = some o → l.reading.geometryFormat ≠ .none →
      (∀ x ∈ (w.store.table o.view.table).schema.fields, x.ignored = false) →
      let columns := o.schema.columnsBut l.reading.unnamedGeometry
      (l.plan o).columns = columns left ∧
        (∀ size table, (l.fetch f w.store size).1 = .ok table →
          table.names = (columns left).map (·.1)) ∧
        (f.viewCan w.store o.view "IgnoreFields" = true → f.ignore = none →
          ∃ l' o', l.setIgnored f w.store [] = (.ok (), l') ∧ l'.state = some o' ∧
            (l'.plan o').columns = columns .none) := by
  have hnone : empty.Leaves n .none := fun l o hl => by cases hl
  have hleaves := hnone.run (f := f) (A := A) ops
  have hplain := Plain.run (n := n) (fun l o hl => by cases hl) hnone h
  generalize empty.run f A ops = w at hleaves hplain ⊢
  intro w left l o hl ho hformat hfields columns
  have hcolumns := (hplain l o hl ho).columns_plan hfields hformat
  rw [hleaves l o hl ho] at hcolumns
  refine ⟨hcolumns, fun size table htable => ?_, fun hcan hfault => ?_⟩
  · rw [Layer.names_of_fetch_eq_ok ho htable, ReadPlan.names, hcolumns]
  · have hall : o.readingAll.Plain (w.store.table o.view.table) :=
      (hplain l o hl ho).congr (.refl _) (fun _ => rfl) rfl
    exact ⟨_, _, Layer.setIgnored_nil ho hcan hfault, rfl,
      hall.columns_plan (l := l.withState o.readingAll) hfields hformat⟩

def threeLayers : List Operation :=
  let field : Field := ⟨"a", .integer, .none, 0, 0, true, false, none, false, none⟩
  let schema (fields : List Field) : Schema := ⟨fields, [⟨"", "Polygon", true, false, none⟩]⟩
  let opening (name : String) : Operation :=
    .openLayer "d" (.name name) ⟨.readWrite, .empty, none, none⟩ name
  [.create "d" (some "c"), .createLayer "c" "input" (schema [field]) none,
    .createLayer "c" "method" (schema []) none, .createLayer "c" "result" (schema [field]) none,
    opening "input", opening "method", opening "result"]

def clipping : Operation :=
  .overlay .clip "input" "method" "result" ⟨false, false, "", ""⟩ fun _ => true

theorem columns_follow_last_ignoring_of_clipped :
    let ops := threeLayers ++ [clipping, .layer "result" (.setIgnored ["a"])]
    let w := empty.run .none .exact ops
    ∃ l o l' o', w.layer? "result" = some l ∧ l.state = some o ∧
      leftOut .none .exact "result" empty .none ops = ⟨[0], []⟩ ∧
      (l.plan o).names = ["FID", "geometry"] ∧
      l.setIgnored .none w.store [] = (.ok (), l') ∧ l'.state = some o' ∧
      (l'.plan o').names = ["FID", "a", "geometry"] := by
  intro ops w
  have hopen : ((w.layer? "result").bind fun l => l.state.map fun o => (l, o)).any (fun e =>
      e.1.reading.geometryFormat ≠ .none &&
        (w.store.table e.2.view.table).schema.fields.all (!·.ignored) &&
        Faults.none.viewCan w.store e.2.view "IgnoreFields" &&
        (e.2.schema.columnsBut e.1.reading.unnamedGeometry ⟨[0], []⟩).map (·.1) =
          ["FID", "geometry"] &&
        (e.2.schema.columnsBut e.1.reading.unnamedGeometry .none).map (·.1) =
          ["FID", "a", "geometry"]) = true := by decide
  obtain ⟨⟨l, o⟩, he, hfacts⟩ := (Option.any_eq_true _ _).mp hopen
  obtain ⟨l₀, hl, he⟩ := Option.bind_eq_some_iff.mp he
  obtain ⟨o₀, ho, he⟩ := Option.map_eq_some_iff.mp he
  cases he
  simp only [Bool.and_eq_true, decide_eq_true_eq, List.all_eq_true, Bool.not_eq_true'] at hfacts
  obtain ⟨⟨⟨⟨hformat, hfields⟩, hcan⟩, hwithout⟩, hall⟩ := hfacts
  have hleft : leftOut .none .exact "result" empty .none ops = ⟨[0], []⟩ := by decide
  have hwhole : empty.OverlaidWhole .none .exact "result" .none ops := by decide
  obtain ⟨hplan, -, hback⟩ :=
    columns_follow_last_ignoring .none .exact "result" ops hwhole l o hl ho hformat hfields
  obtain ⟨l', o', hnil, ho', hplan'⟩ := hback hcan rfl
  rw [hleft] at hplan
  refine ⟨l, o, l', o', hl, ho, hleft, ?_, hnil, ho', ?_⟩
  · rw [ReadPlan.names, hplan, hwithout]
  · rw [ReadPlan.names, hplan', hall]

/-- A field that is left out while the layer is overlaid into stays away for good: the schema that is
read again has it as left out, and when nothing is left out any more its column is still missing. -/
theorem ignoring_outlasts_overlay :
    let ops := threeLayers ++
      [.layer "result" (.setIgnored ["a"]), clipping, .layer "result" (.setIgnored [])]
    let w := empty.run .none .exact ops
    let left := leftOut .none .exact "result" empty .none ops
    left = .none ∧
      (w.layer? "result").bind (fun l => l.state.map fun o =>
        ((w.store.table o.view.table).schema.fields.all (!·.ignored),
          (o.schema.columnsBut l.reading.unnamedGeometry left).map (·.1), (l.plan o).names)) =
        some (true, ["FID", "a", "geometry"], ["FID", "geometry"]) := by
  decide

end Workspace

end FeatureLayer
