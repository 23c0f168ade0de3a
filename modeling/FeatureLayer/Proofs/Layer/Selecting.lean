import FeatureLayer.Proofs.Layer.Tracking
/-!
Selecting fields is leaving out the others. Names lead to positions, the positions left over lead to
names, and these to positions in the table.
-/

namespace FeatureLayer

theorem findIdx?_name_eq_some_iff {α : Type} {name : α → String} {xs : List α}
    (h : (xs.map name).Nodup) {x : String} {i : Nat} :
    (xs.findIdx? fun a => name a = x) = some i ↔ ∃ a, xs[i]? = some a ∧ name a = x := by
  constructor
  · intro hi
    obtain ⟨hlt, hname, -⟩ := List.findIdx?_eq_some_iff_getElem.mp hi
    exact ⟨_, List.getElem?_eq_getElem hlt, of_decide_eq_true hname⟩
  · rintro ⟨a, ha, rfl⟩
    exact List.findIdx?_eq_of_nodup h ha

theorem filterMap_positions {α β : Type} (xs : List α) (p : Nat → Bool) (g : α → β) :
    (((List.range xs.length).filter p).filterMap fun i => xs[i]?.map g) =
      (xs.zipIdx.filter fun e => p e.2).map fun e => g e.1 := by
  have hrange : List.range xs.length = xs.zipIdx.map (·.2) := by
    rw [List.zipIdx_map_snd, List.range_eq_range']
  rw [hrange, List.filter_map, List.filterMap_map, ← List.filterMap_eq_map]
  refine List.filterMap_congr fun e he => ?_
  have hget := List.mk_mem_zipIdx_iff_getElem?.mp (List.mem_filter.mp he).1
  simp [hget]

/-- Whether one of the names is for the geometry at a position: it goes by it, or is the first, which
the word is for. -/
def GeometryField.calledBy (unnamed : String) (names : List String) (g : GeometryField) (i : Nat) :
    Bool :=
  names.contains (g.displayName unnamed) ||
    (i = 0 && names.any (Text.sameWord · Layer.geometryWord))

namespace Schema

variable {s : Schema} {unnamed : String}

structure ToldApart (unnamed : String) (s : Schema) : Prop where
  nodup : (s.names unnamed).Nodup
  noWord : ∀ x ∈ s.names unnamed, Text.sameWord x Layer.geometryWord = false

def knows (s : Schema) (unnamed x : String) : Bool :=
  (s.names unnamed).contains x ||
    (Text.sameWord x Layer.geometryWord && !s.geometryFields.isEmpty)

def columnsOf (s : Schema) (unnamed : String) (names : List String) : List (String × ColumnSource) :=
  (Row.fidName, .fid) ::
    ((s.fields.zipIdx.filter fun e => names.contains e.1.name).map fun e =>
      (e.1.name, .attribute e.2 e.1.kind e.1.subkind)) ++
    (s.geometryFields.zipIdx.filter fun e => e.1.calledBy unnamed names e.2).map fun e =>
      (e.1.displayName unnamed, .geometry e.2)

def namesBeside (s : Schema) (unnamed : String) (names : List String) : List String :=
  (s.fields.zipIdx.filter fun e => !names.contains e.1.name).map (·.1.name) ++
    (s.geometryFields.zipIdx.filter fun e => !e.1.calledBy unnamed names e.2).map
      (·.1.displayName unnamed)

theorem isSome_selectedOfName? (s : Schema) (unnamed x : String) :
    (Layer.selectedOfName? s unnamed x).isSome = s.knows unnamed x := by
  have hfield : (s.fieldIndex? x).isSome = (s.fields.map (·.name)).contains x := by
    rw [Schema.fieldIndex?, List.findIdx?_isSome, List.contains_eq_any_beq, List.any_map]
    exact congrArg s.fields.any (funext fun y => by simp [Bool.beq_eq_decide_eq, eq_comm])
  have hgeometry : (s.geometryIndex? x unnamed).isSome =
      (s.geometryFields.map (·.displayName unnamed)).contains x := by
    rw [Schema.geometryIndex?, List.findIdx?_isSome, List.contains_eq_any_beq, List.any_map]
    exact congrArg s.geometryFields.any (funext fun y => by simp [Bool.beq_eq_decide_eq, eq_comm])
  rw [knows, names, List.contains_append, ← hfield, ← hgeometry]
  unfold Layer.selectedOfName?
  cases s.fieldIndex? x with
  | some i => rfl
  | none =>
    cases s.geometryIndex? x unnamed with
    | some i => rfl
    | none =>
      simp only [Option.isSome_none, Bool.false_or]
      split
      next h => exact h.symm
      next h => exact (Bool.eq_false_iff.mpr h).symm

theorem contains_positions {bound i : Nat} (hi : i < bound) (indices : List Nat) :
    (Layer.positions bound indices).contains i = indices.contains i := by
  rw [Bool.eq_iff_iff]
  simp [Layer.positions, hi]

theorem named_in_order (s : Schema) (unnamed : String) (names : List String) :
    let left := s.named unnamed names
    left = ⟨Layer.positions s.fields.length left.attributes,
      Layer.positions s.geometryFields.length left.geometries⟩ := by
  intro left
  rw [show left = _ from (s.named_eq unnamed names).symm]
  exact congrArg₂ IgnoredFields.mk
    (List.filter_congr fun i hi => (contains_positions (List.mem_range.mp hi) _).symm)
    (List.filter_congr fun i hi => (contains_positions (List.mem_range.mp hi) _).symm)

namespace ToldApart

variable {x : String} {i : Nat}

theorem fieldIndex?_eq_some_iff (h : s.ToldApart unnamed) :
    s.fieldIndex? x = some i ↔ ∃ y, s.fields[i]? = some y ∧ y.name = x :=
  findIdx?_name_eq_some_iff (List.nodup_append.mp h.nodup).1

theorem geometryIndex?_eq_some_iff (h : s.ToldApart unnamed) :
    s.geometryIndex? x unnamed = some i ↔
      ∃ g, s.geometryFields[i]? = some g ∧ g.displayName unnamed = x :=
  findIdx?_name_eq_some_iff (List.nodup_append.mp h.nodup).2.1

theorem fieldIndex?_of_geometry (h : s.ToldApart unnamed) {g : GeometryField}
    (hg : s.geometryFields[i]? = some g) : s.fieldIndex? (g.displayName unnamed) = none := by
  rw [Option.eq_none_iff_forall_ne_some]
  intro j hj
  obtain ⟨y, hy, hname⟩ := h.fieldIndex?_eq_some_iff.mp hj
  exact (List.nodup_append.mp h.nodup).2.2 _ (List.mem_map_of_mem (List.mem_of_getElem? hy)) _
    (List.mem_map_of_mem (f := (·.displayName unnamed)) (List.mem_of_getElem? hg)) hname

theorem noWord_field (h : s.ToldApart unnamed) {y : Field} (hy : s.fields[i]? = some y) :
    Text.sameWord y.name Layer.geometryWord = false :=
  h.noWord _ (Unambiguous.field_mem hy)

theorem noWord_geometry (h : s.ToldApart unnamed) {g : GeometryField}
    (hg : s.geometryFields[i]? = some g) :
    Text.sameWord (g.displayName unnamed) Layer.geometryWord = false :=
  h.noWord _ (Unambiguous.geometry_mem hg)

theorem index?_of_word (h : s.ToldApart unnamed) (hx : Text.sameWord x Layer.geometryWord = true) :
    s.fieldIndex? x = none ∧ s.geometryIndex? x unnamed = none := by
  constructor
  all_goals
    rw [Option.eq_none_iff_forall_ne_some]
    intro j hj
  · obtain ⟨y, hy, rfl⟩ := h.fieldIndex?_eq_some_iff.mp hj
    cases hx.symm.trans (h.noWord_field hy)
  · obtain ⟨g, hg, rfl⟩ := h.geometryIndex?_eq_some_iff.mp hj
    cases hx.symm.trans (h.noWord_geometry hg)

theorem selectedOfName?_eq (h : s.ToldApart unnamed) (x : String) :
    Layer.selectedOfName? s unnamed x = Layer.fieldOfName? s unnamed x := by
  unfold Layer.selectedOfName? Layer.fieldOfName?
  cases hword : Text.sameWord x Layer.geometryWord with
  | true =>
    obtain ⟨hfield, hgeometry⟩ := h.index?_of_word hword
    rw [hfield, hgeometry]
    cases s.geometryFields <;> rfl
  | false =>
    cases s.fieldIndex? x with
    | some i => rfl
    | none => cases s.geometryIndex? x unnamed <;> rfl

theorem contains_named_attributes (h : s.ToldApart unnamed) (names : List String) {e : Field × Nat}
    (he : e ∈ s.fields.zipIdx) :
    (s.named unnamed names).attributes.contains e.2 = names.contains e.1.name := by
  have hget := List.mk_mem_zipIdx_iff_getElem?.mp he
  have hlt := (List.getElem?_eq_some_iff.mp hget).1
  rw [Bool.eq_iff_iff]
  simp only [named, List.contains_iff_mem, List.mem_filter, List.mem_range, List.any_eq_true,
    decide_eq_true_eq, h.fieldIndex?_eq_some_iff, hget, Option.some.injEq, exists_eq_left', hlt,
    true_and, exists_eq_right']

theorem contains_named_geometries (h : s.ToldApart unnamed) (names : List String)
    {e : GeometryField × Nat} (he : e ∈ s.geometryFields.zipIdx) :
    (s.named unnamed names).geometries.contains e.2 = e.1.calledBy unnamed names e.2 := by
  have hget := List.mk_mem_zipIdx_iff_getElem?.mp he
  have hlt := (List.getElem?_eq_some_iff.mp hget).1
  rw [Bool.eq_iff_iff]
  simp only [named, GeometryField.calledBy, List.contains_iff_mem, List.mem_filter, List.mem_range,
    List.any_eq_true, hlt, true_and, Bool.or_eq_true, Bool.and_eq_true, decide_eq_true_eq]
  constructor
  · rintro ⟨x, hx, -, hposition⟩
    split at hposition
    next hword => exact .inr ⟨of_decide_eq_true hposition, x, hx, hword⟩
    next =>
      obtain ⟨g, hg, rfl⟩ := h.geometryIndex?_eq_some_iff.mp (of_decide_eq_true hposition)
      cases hget.symm.trans hg
      exact .inl hx
  · rintro (hname | ⟨hzero, x, hx, hword⟩)
    · refine ⟨_, hname, by rw [h.fieldIndex?_of_geometry hget]; rfl, ?_⟩
      rw [if_neg (by rw [h.noWord_geometry hget]; exact Bool.false_ne_true)]
      exact decide_eq_true (h.geometryIndex?_eq_some_iff.mpr ⟨_, hget, rfl⟩)
    · refine ⟨x, hx, by rw [(h.index?_of_word hword).1]; rfl, ?_⟩
      rw [if_pos hword]
      exact decide_eq_true hzero

/-! ### The names of the others -/

theorem namesBut_subset (s : Schema) (unnamed : String) (left : IgnoredFields) :
    s.namesBut unnamed left ⊆ s.names unnamed := by
  intro x hx
  simp only [namesBut, List.mem_append, List.mem_map, List.mem_filter] at hx
  rcases hx with ⟨e, ⟨he, -⟩, rfl⟩ | ⟨e, ⟨he, -⟩, rfl⟩
  · exact Unambiguous.field_mem (List.mk_mem_zipIdx_iff_getElem?.mp he)
  · exact Unambiguous.geometry_mem (List.mk_mem_zipIdx_iff_getElem?.mp he)

theorem contains_namesBut_field (h : s.ToldApart unnamed) (left : IgnoredFields) {e : Field × Nat}
    (he : e ∈ s.fields.zipIdx) :
    (s.namesBut unnamed left).contains e.1.name = !left.attributes.contains e.2 := by
  have hget := List.mk_mem_zipIdx_iff_getElem?.mp he
  rw [Bool.eq_iff_iff, List.contains_iff_mem, namesBut, List.mem_append, List.mem_map, List.mem_map]
  constructor
  · rintro (⟨d, hd, hname⟩ | ⟨d, hd, hname⟩)
    · obtain ⟨hd, hleft⟩ := List.mem_filter.mp hd
      have hget' := List.mk_mem_zipIdx_iff_getElem?.mp hd
      rwa [← List.eq_of_nodup_map (List.nodup_append.mp h.nodup).1 hget' hget hname]
    · have hget' := List.mk_mem_zipIdx_iff_getElem?.mp (List.mem_filter.mp hd).1
      have hnone := h.fieldIndex?_of_geometry hget'
      cases hnone.symm.trans (h.fieldIndex?_eq_some_iff.mpr ⟨_, hget, hname.symm⟩)
  · exact fun hleft => .inl ⟨e, List.mem_filter.mpr ⟨he, hleft⟩, rfl⟩

theorem calledBy_namesBut (h : s.ToldApart unnamed) (left : IgnoredFields) {e : GeometryField × Nat}
    (he : e ∈ s.geometryFields.zipIdx) :
    e.1.calledBy unnamed (s.namesBut unnamed left) e.2 = !left.geometries.contains e.2 := by
  have hget := List.mk_mem_zipIdx_iff_getElem?.mp he
  have hword : (s.namesBut unnamed left).any (Text.sameWord · Layer.geometryWord) = false := by
    rw [List.any_eq_false]
    intro x hx
    rw [h.noWord x (namesBut_subset s unnamed left hx)]
    exact Bool.false_ne_true
  rw [GeometryField.calledBy, hword, Bool.and_false, Bool.or_false, Bool.eq_iff_iff,
    List.contains_iff_mem, namesBut, List.mem_append, List.mem_map, List.mem_map]
  constructor
  · rintro (⟨d, hd, hname⟩ | ⟨d, hd, hname⟩)
    · have hget' := List.mk_mem_zipIdx_iff_getElem?.mp (List.mem_filter.mp hd).1
      have hnone := h.fieldIndex?_of_geometry hget
      cases hnone.symm.trans (h.fieldIndex?_eq_some_iff.mpr ⟨_, hget', hname⟩)
    · obtain ⟨hd, hleft⟩ := List.mem_filter.mp hd
      have hget' := List.mk_mem_zipIdx_iff_getElem?.mp hd
      rwa [← List.eq_of_nodup_map (List.nodup_append.mp h.nodup).2.1 hget' hget hname]
  · exact fun hleft => .inr ⟨e, List.mem_filter.mpr ⟨he, hleft⟩, rfl⟩

theorem selected_eq (h : s.ToldApart unnamed) (names : List String) :
    s.named unnamed names =
      ⟨Layer.positions s.fields.length (s.selected unnamed names).attributes,
        Layer.positions s.geometryFields.length (s.selected unnamed names).geometries⟩ := by
  rw [← s.named_eq unnamed names, selected, funext h.selectedOfName?_eq]

theorem contains_selected_field (h : s.ToldApart unnamed) (names : List String) {e : Field × Nat}
    (he : e ∈ s.fields.zipIdx) :
    (s.selected unnamed names).attributes.contains e.2 = names.contains e.1.name := by
  have hlt := (List.getElem?_eq_some_iff.mp (List.mk_mem_zipIdx_iff_getElem?.mp he)).1
  rw [← h.contains_named_attributes names he, h.selected_eq, contains_positions hlt]

theorem contains_selected_geometry (h : s.ToldApart unnamed) (names : List String)
    {e : GeometryField × Nat} (he : e ∈ s.geometryFields.zipIdx) :
    (s.selected unnamed names).geometries.contains e.2 = e.1.calledBy unnamed names e.2 := by
  have hlt := (List.getElem?_eq_some_iff.mp (List.mk_mem_zipIdx_iff_getElem?.mp he)).1
  rw [← h.contains_named_geometries names he, h.selected_eq, contains_positions hlt]

theorem namesBut_selected (h : s.ToldApart unnamed) (names : List String) :
    s.namesBut unnamed (s.selected unnamed names) = s.namesBeside unnamed names := by
  have hfields : (s.fields.zipIdx.filter fun e =>
      !(s.selected unnamed names).attributes.contains e.2) =
      s.fields.zipIdx.filter fun e => !names.contains e.1.name :=
    List.filter_congr fun e he => by rw [h.contains_selected_field names he]
  have hgeometries : (s.geometryFields.zipIdx.filter fun e =>
      !(s.selected unnamed names).geometries.contains e.2) =
      s.geometryFields.zipIdx.filter fun e => !e.1.calledBy unnamed names e.2 :=
    List.filter_congr fun e he => by rw [h.contains_selected_geometry names he]
  rw [namesBut, namesBeside, hfields, hgeometries]

/-- The names of the other fields stand for these fields, and for no more. -/
theorem contains_named_namesBeside (h : s.ToldApart unnamed) (names : List String) :
    let left := s.named unnamed (s.namesBeside unnamed names)
    (∀ e ∈ s.fields.zipIdx, left.attributes.contains e.2 = !names.contains e.1.name) ∧
      ∀ e ∈ s.geometryFields.zipIdx,
        left.geometries.contains e.2 = !e.1.calledBy unnamed names e.2 := by
  intro left
  have hleft : left = s.named unnamed (s.namesBut unnamed (s.selected unnamed names)) := by
    rw [h.namesBut_selected]
  rw [hleft]
  refine ⟨fun e he => ?_, fun e he => ?_⟩
  · rw [h.contains_named_attributes _ he, h.contains_namesBut_field _ he,
      h.contains_selected_field names he]
  · rw [h.contains_named_geometries _ he, h.calledBy_namesBut _ he,
      h.contains_selected_geometry names he]

/-- To leave them out leaves the columns of the named fields. -/
theorem columnsBut_named_namesBeside (h : s.ToldApart unnamed) (names : List String) :
    s.columnsBut unnamed (s.named unnamed (s.namesBeside unnamed names)) =
      s.columnsOf unnamed names := by
  obtain ⟨hfield, hgeometry⟩ := h.contains_named_namesBeside names
  generalize s.named unnamed (s.namesBeside unnamed names) = left at hfield hgeometry
  have hfields : (s.fields.zipIdx.filter fun e => !left.attributes.contains e.2) =
      s.fields.zipIdx.filter fun e => names.contains e.1.name :=
    List.filter_congr fun e he => by rw [hfield e he, Bool.not_not]
  have hgeometries : (s.geometryFields.zipIdx.filter fun e => !left.geometries.contains e.2) =
      s.geometryFields.zipIdx.filter fun e => e.1.calledBy unnamed names e.2 :=
    List.filter_congr fun e he => by rw [hgeometry e he, Bool.not_not]
  rw [columnsBut, columnsOf, hfields, hgeometries]

theorem names_at_named_namesBeside (h : s.ToldApart unnamed) (names : List String) :
    let left := s.named unnamed (s.namesBeside unnamed names)
    (left.attributes.filterMap fun i => s.fields[i]?.map (·.name)) ++
      (left.geometries.filterMap fun i => s.geometryFields[i]?.map (·.displayName unnamed)) =
        s.namesBeside unnamed names := by
  intro left
  obtain ⟨hfield, hgeometry⟩ := h.contains_named_namesBeside names
  have hpositions := s.named_in_order unnamed (s.namesBeside unnamed names)
  have hfields : (s.fields.zipIdx.filter fun e => left.attributes.contains e.2) =
      s.fields.zipIdx.filter fun e => !names.contains e.1.name := List.filter_congr hfield
  have hgeometries : (s.geometryFields.zipIdx.filter fun e => left.geometries.contains e.2) =
      s.geometryFields.zipIdx.filter fun e => !e.1.calledBy unnamed names e.2 :=
    List.filter_congr hgeometry
  rw [show left = _ from hpositions]
  simp only [Layer.positions]
  rw [filterMap_positions, filterMap_positions, hfields, hgeometries]
  rfl

end ToldApart

end Schema

theorem View.isSome_ignoredField? {s s' : Schema} (h : s.defined.Grows s'.defined)
    {left : IgnoredFields} {x : String} (hx : x ∈ Layer.storeNames s left) :
    (ignoredField? s' x).isSome = true := by
  unfold ignoredField?
  split
  · rfl
  split
  · rfl
  next hword =>
  rcases Layer.mem_storeNames.mp hx with ⟨i, -, y, hy, rfl⟩ | ⟨i, -, g, hg, rfl⟩
  · obtain ⟨y', hy', hname, -⟩ := h.name_field hy
    have hfound : (s'.fieldIndex? y.name).isSome = true := by
      rw [Schema.fieldIndex?, List.findIdx?_isSome, List.any_eq_true]
      exact ⟨y', List.mem_of_getElem? hy', decide_eq_true hname⟩
    obtain ⟨k, hk⟩ := Option.isSome_iff_exists.mp hfound
    rw [hk]
    rfl
  · obtain ⟨g', hg', hname⟩ := h.name_geometryField hg
    split
    · rfl
    · rw [Option.isSome_map, List.findIdx?_isSome, List.any_eq_true]
      refine ⟨g', List.mem_of_getElem? hg', ?_⟩
      cases hempty : g.name.isEmpty with
      | true =>
        -- a geometry without a name is told by the word
        have hne : s'.geometryFields.isEmpty = false :=
          List.isEmpty_eq_false_iff.mpr (List.ne_nil_of_mem (List.mem_of_getElem? hg'))
        simp only [hempty, if_true, hne] at hword
        exact absurd (by decide) hword
      | false => simp [hname, hempty]

theorem View.ignore_of_known {t : FeatureTable} {names : List String}
    (h : ∀ x ∈ names, (ignoredField? t.schema x).isSome = true) :
    ∃ j, ∀ v : View, v.ignore t names = (.ok (), { v with ignored := j }) := by
  have hfind : (names.find? fun n => (ignoredField? t.schema n).isNone) = none := by
    rw [List.find?_eq_none]
    intro x hx
    rw [Bool.not_eq_true, Option.isNone_eq_false_iff]
    exact h x hx
  let found := names.filterMap (ignoredField? t.schema)
  refine ⟨⟨found.flatMap (·.attributes), found.flatMap (·.geometries)⟩, fun v => ?_⟩
  unfold ignore
  rw [hfind]

namespace Layer

variable {f : Faults} {s : Store} {l : Layer} {o : OpenLayer}

theorem setIgnored_of_known (ho : l.state = some o) (hcan : f.viewCan s o.view "IgnoreFields" = true)
    {names : List String}
    (hknown : ∀ x ∈ names, (fieldOfName? o.schema l.reading.unnamedGeometry x).isSome = true)
    {v : View} (hv : f.ignoreFields s o.view
      (storeNames o.schema (o.schema.named l.reading.unnamedGeometry names)) = (.ok (), v)) :
    l.setIgnored f s names = (.ok (), l.withState
      { o with view := v, ignored := o.schema.named l.reading.unnamedGeometry names }) := by
  have hfind : (names.find? fun n =>
      (fieldOfName? o.schema l.reading.unnamedGeometry n).isNone) = none := by
    rw [List.find?_eq_none]
    intro x hx
    rw [Bool.not_eq_true, Option.isNone_eq_false_iff]
    exact hknown x hx
  unfold setIgnored
  rw [ho]
  simp only [hcan, Bool.not_true, Bool.false_eq_true, if_false, hfind, Schema.named_eq, hv]

theorem setSelected_of_unknown (ho : l.state = some o) {names : List String} {x : String}
    (hx : (names.find? fun x => !o.schema.knows l.reading.unnamedGeometry x) = some x) :
    l.setSelected f s names =
      (.error (.unmappedField x (s.table o.view.table).name), l) := by
  have hfind : (names.find? fun n =>
      (selectedOfName? o.schema l.reading.unnamedGeometry n).isNone) = some x := by
    rw [← hx]
    congr 1
    funext y
    rw [← Schema.isSome_selectedOfName?, Option.not_isSome]
  unfold setSelected
  rw [ho]
  simp only [hfind]

/-- To select known names is to leave out the names of the other fields. -/
theorem setSelected_of_known (ho : l.state = some o)
    (h : o.schema.ToldApart l.reading.unnamedGeometry) {names : List String}
    (hknown : ∀ x ∈ names, o.schema.knows l.reading.unnamedGeometry x = true) :
    l.setSelected f s names =
      l.setIgnored f s (o.schema.namesBeside l.reading.unnamedGeometry names) := by
  have hfind : (names.find? fun n =>
      (selectedOfName? o.schema l.reading.unnamedGeometry n).isNone) = none := by
    rw [List.find?_eq_none]
    intro x hx
    rw [Bool.not_eq_true, Option.isNone_eq_false_iff, Schema.isSome_selectedOfName?]
    exact hknown x hx
  rw [← h.namesBut_selected]
  unfold setSelected
  rw [ho]
  simp only [hfind]
  rfl

end Layer

end FeatureLayer
