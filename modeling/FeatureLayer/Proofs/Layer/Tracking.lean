import FeatureLayer.Proofs.Layer.Sparing

namespace FeatureLayer

theorem GeometryField.displayName_eq_name (g : GeometryField) (unnamed : String)
    (h : ¬g.name.isEmpty = true) : g.displayName unnamed = g.name := if_neg h

namespace Layer

theorem mem_storeNames {s : Schema} {i : IgnoredFields} {x : String} :
    x ∈ storeNames s i ↔
      (∃ j ∈ i.attributes, ∃ f, s.fields[j]? = some f ∧ f.name = x) ∨
        ∃ j ∈ i.geometries, ∃ g, s.geometryFields[j]? = some g ∧
          (if g.name.isEmpty then geometryWord else g.name) = x := by
  simp only [storeNames, List.mem_append, List.mem_filterMap, Option.map_eq_some_iff]

theorem storeNames_subset {s s' : Schema} (h : s.defined.Grows s'.defined) (i : IgnoredFields) :
    storeNames s i ⊆ storeNames s' i := by
  intro x hx
  rw [mem_storeNames] at hx ⊢
  rcases hx with ⟨j, hj, f, hf, rfl⟩ | ⟨j, hj, g, hg, rfl⟩
  · obtain ⟨f', hf', hname, -⟩ := h.name_field hf
    exact .inl ⟨j, hj, f', hf', hname⟩
  · obtain ⟨g', hg', hname⟩ := h.name_geometryField hg
    exact .inr ⟨j, hj, g', hg', by rw [hname]⟩

end Layer

theorem List.eq_of_nodup_map {α β : Type} {xs : List α} {g : α → β} (h : (xs.map g).Nodup) {i j : Nat}
    {x y : α} (hx : xs[i]? = some x) (hy : xs[j]? = some y) (hg : g x = g y) : i = j := by
  have hlt : i < (xs.map g).length := by
    rw [List.length_map]
    exact (List.getElem?_eq_some_iff.mp hx).1
  refine (List.getElem?_inj hlt h).mp ?_
  rw [List.getElem?_map, List.getElem?_map, hx, hy]
  exact congrArg some hg

namespace Schema

variable {s : Schema} {unnamed : String}

/-- The columns of a read have names of their own, none of them the word for the first geometry. -/
structure Unambiguous (unnamed : String) (s : Schema) : Prop where
  nodup : (Row.fidName :: s.names unnamed).Nodup
  noWord : ∀ x ∈ s.names unnamed, Text.sameWord x Layer.geometryWord = false

namespace Unambiguous

variable {i j : Nat} {x y : Field} {g g' : GeometryField}

theorem field_eq (h : s.Unambiguous unnamed) (hx : s.fields[i]? = some x)
    (hy : s.fields[j]? = some y) (hname : x.name = y.name) : i = j :=
  List.eq_of_nodup_map (List.nodup_append.mp (List.nodup_cons.mp h.nodup).2).1 hx hy hname

theorem geometry_eq (h : s.Unambiguous unnamed) (hg : s.geometryFields[i]? = some g)
    (hg' : s.geometryFields[j]? = some g') (hname : g.displayName unnamed = g'.displayName unnamed) :
    i = j :=
  List.eq_of_nodup_map (List.nodup_append.mp (List.nodup_cons.mp h.nodup).2).2.1 hg hg' hname

theorem field_mem (hx : s.fields[i]? = some x) : x.name ∈ s.names unnamed :=
  List.mem_append_left _ (List.mem_map_of_mem (List.mem_of_getElem? hx))

theorem geometry_mem (hg : s.geometryFields[i]? = some g) :
    g.displayName unnamed ∈ s.names unnamed :=
  List.mem_append_right _ (List.mem_map_of_mem (f := (·.displayName unnamed))
    (List.mem_of_getElem? hg))

theorem field_ne_geometry (h : s.Unambiguous unnamed) (hx : s.fields[i]? = some x)
    (hg : s.geometryFields[j]? = some g) : x.name ≠ g.displayName unnamed :=
  (List.nodup_append.mp (List.nodup_cons.mp h.nodup).2).2.2 _
    (List.mem_map_of_mem (List.mem_of_getElem? hx)) _
    (List.mem_map_of_mem (f := (·.displayName unnamed)) (List.mem_of_getElem? hg))

theorem ne_fidName (h : s.Unambiguous unnamed) {name : String} (hn : name ∈ s.names unnamed) :
    name ≠ Row.fidName := fun he => (List.nodup_cons.mp h.nodup).1 (he ▸ hn)

theorem ne_word (h : s.Unambiguous unnamed) {name : String} (hn : name ∈ s.names unnamed) :
    name ≠ Layer.geometryWord := by
  rintro rfl
  exact absurd (h.noWord _ hn) (by decide)

theorem left_of_field (h : s.Unambiguous unnamed) {left : IgnoredFields}
    (hx : s.fields[i]? = some x) (hmem : x.name ∈ Layer.storeNames s left) :
    i ∈ left.attributes := by
  rcases Layer.mem_storeNames.mp hmem with ⟨j, hj, y, hy, hname⟩ | ⟨j, hj, g, hg, hname⟩
  · rwa [h.field_eq hx hy hname.symm]
  · split at hname
    · exact absurd hname.symm (h.ne_word (field_mem hx))
    next hne =>
      rw [← g.displayName_eq_name unnamed hne] at hname
      exact absurd hname.symm (h.field_ne_geometry hx hg)

theorem left_of_geometry (h : s.Unambiguous unnamed) {left : IgnoredFields}
    (hg : s.geometryFields[i]? = some g) (hne : g.name ≠ "")
    (hmem : g.name ∈ Layer.storeNames s left) : i ∈ left.geometries := by
  have hdisplay := g.displayName_eq_name unnamed (by simpa using hne)
  rcases Layer.mem_storeNames.mp hmem with ⟨j, hj, y, hy, hname⟩ | ⟨j, hj, g', hg', hname⟩
  · exact absurd (hname.trans hdisplay.symm) (h.field_ne_geometry hy hg)
  · split at hname
    · exact absurd (hdisplay.trans hname.symm) (h.ne_word (geometry_mem hg))
    next hne' =>
      rw [← g'.displayName_eq_name unnamed hne'] at hname
      rwa [h.geometry_eq hg hg' (hdisplay.trans hname.symm)]

theorem unnamed_of_word (h : s.Unambiguous unnamed) {left : IgnoredFields} {name : String}
    (hword : Text.sameWord name Layer.geometryWord = true) (hmem : name ∈ Layer.storeNames s left) :
    ∃ i ∈ left.geometries, ∃ g, s.geometryFields[i]? = some g ∧ g.name = "" := by
  rcases Layer.mem_storeNames.mp hmem with ⟨j, hj, y, hy, rfl⟩ | ⟨j, hj, g, hg, rfl⟩
  · rw [h.noWord _ (field_mem hy)] at hword
    cases hword
  · split at hword
    next hempty => exact ⟨j, hj, g, hg, by simpa using hempty⟩
    next hne =>
      rw [← g.displayName_eq_name unnamed hne, h.noWord _ (geometry_mem hg)] at hword
      cases hword

end Unambiguous

end Schema

theorem Faults.defined_inspect (f : Faults) (s : Store) (v : View) (unnamed : String) :
    (f.inspect s v unnamed).1.defined = (s.table v.table).schema.defined := by
  have hfields : (f.inspect s v unnamed).1.defined.fields =
      (s.table v.table).schema.defined.fields := by
    refine List.ext_getElem? fun i => ?_
    simp only [inspect, View.schema, Schema.defined, List.getElem?_map, List.getElem?_zipIdx,
      Option.map_map]
    rfl
  have hgeometries : (f.inspect s v unnamed).1.defined.geometryFields =
      (s.table v.table).schema.defined.geometryFields := by
    refine List.ext_getElem? fun i => ?_
    obtain ⟨r, hr⟩ := f.getElem?_inspect s v unnamed i
    simp only [Schema.defined, List.getElem?_map, hr, Option.map_map]
    rfl
  exact congrArg₂ Schema.mk hfields hgeometries

/-- The layer knows the fields of its table, if it knows of any, and its view leaves out fields that
bear the names of those that the layer leaves out. -/
structure OpenLayer.Tracks (t : FeatureTable) (o : OpenLayer) : Prop where
  grows : o.schema.defined.Grows t.schema.defined
  told : o.view.ignored.BearOneOf (Layer.storeNames o.schema o.ignored) t.schema

theorem OpenLayer.Tracks.congr {t t' : FeatureTable} {o o' : OpenLayer} (h : o.Tracks t)
    (ht : t.schema.Grows t'.schema) (hs : o'.schema = o.schema)
    (hi : o'.ignored = o.ignored ∧ o'.view.ignored = o.view.ignored) : o'.Tracks t' where
  grows := hs ▸ h.grows.trans ht.defined
  told := by
    rw [hs, hi.1, hi.2]
    exact h.told.mono ht (List.Subset.refl _)

/-- With a geometry without a name left out, the first geometry is left out too. -/
def Schema.FirstToo (s : Schema) (left : IgnoredFields) : Prop :=
  ∀ i ∈ left.geometries, ∀ g, s.geometryFields[i]? = some g → g.name = "" → 0 ∈ left.geometries

theorem getElem?_foldl_set {α : Type} (a : α) {is : List Nat} {i : Nat} (h : i ∉ is) (xs : List α) :
    (is.foldl (fun xs i => xs.set i a) xs)[i]? = xs[i]? := by
  induction is generalizing xs with
  | nil => rfl
  | cons j is ih =>
    obtain ⟨hne, h⟩ := not_or.mp (List.mem_cons.not.mp h)
    rw [List.foldl_cons, ih h, List.getElem?_set_ne (Ne.symm hne)]

namespace OpenLayer.Tracks

variable {t : FeatureTable} {o : OpenLayer} {unnamed : String} {i : Nat}

/-- The view leaves out no attribute of the schema that the layer does not leave out. -/
theorem left_of_attribute (h : o.Tracks t) (hn : o.schema.Unambiguous unnamed) {x : Field}
    (hx : o.schema.fields[i]? = some x) (hi : i ∈ o.view.ignored.attributes) :
    i ∈ o.ignored.attributes := by
  obtain ⟨y, hy, hmem⟩ := h.told.attributes i hi
  obtain ⟨y', hy', hname, -⟩ := h.grows.name_field hx
  obtain rfl := Option.some.inj (hy.symm.trans hy')
  exact hn.left_of_field hx (hname ▸ hmem)

theorem left_of_geometry (h : o.Tracks t) (hn : o.schema.Unambiguous unnamed)
    (hfirst : o.schema.FirstToo o.ignored) {g : GeometryField}
    (hg : o.schema.geometryFields[i]? = some g) (hi : i ∈ o.view.ignored.geometries) :
    i ∈ o.ignored.geometries := by
  rcases h.told.geometries i hi with ⟨rfl, name, hmem, hword⟩ | ⟨g', hg', hne, hmem⟩
  · obtain ⟨j, hj, g', hg', hempty⟩ := hn.unnamed_of_word hword hmem
    exact hfirst j hj g' hg' hempty
  · obtain ⟨g'', hg'', hname⟩ := h.grows.name_geometryField hg
    obtain rfl := Option.some.inj (hg'.symm.trans hg'')
    exact hn.left_of_geometry hg (hname ▸ hne) (hname ▸ hmem)

theorem sameIn (h : o.Tracks t) (hn : o.schema.Unambiguous unnamed)
    (hfirst : o.schema.FirstToo o.ignored) (reading : ReadOptions) (r : Record) :
    (ReadPlan.make o.schema o.ignored reading).SameIn reading r (o.view.project r) := by
  intro c hc
  rcases ReadPlan.source_of_mem_make hc with hsource | ⟨i, x, hx, hi, hsource⟩ | ⟨i, g, hg, hi, hsource⟩
  all_goals rw [hsource, ReadPlan.cell, ReadPlan.cell, ReadPlan.valueAt, ReadPlan.valueAt]
  · rfl
  · rw [View.project, getElem?_foldl_set _ fun hv => hi (h.left_of_attribute hn hx hv)]
  · rw [View.project, getElem?_foldl_set _ fun hv => hi (h.left_of_geometry hn hfirst hg hv)]

end OpenLayer.Tracks

theorem filter_filterMap_ite_none {α β : Type} {p q : α → Bool} {g : α → β} {k : β → Bool}
    {xs : List α} (h : ∀ x ∈ xs, (k (g x) && !p x) = !q x) :
    (xs.filterMap fun x => if p x then none else some (g x)).filter k =
      xs.filterMap fun x => if q x then none else some (g x) := by
  rw [filterMap_ite_none, filterMap_ite_none, List.filter_map, List.filter_filter]
  exact congrArg (List.map g) (List.filter_congr h)

namespace Schema.Unambiguous

variable {s : Schema} {unnamed : String} {left : IgnoredFields} {i : Nat}

theorem mem_names_columnsBut {name : String} :
    name ∈ (s.columnsBut unnamed left).map (·.1) ↔
      name = Row.fidName ∨
        (∃ (x : Field) (j : Nat), (s.fields[j]? = some x ∧ j ∉ left.attributes) ∧ x.name = name) ∨
        ∃ (g : GeometryField) (j : Nat), (s.geometryFields[j]? = some g ∧ j ∉ left.geometries) ∧
          g.displayName unnamed = name := by
  simp only [columnsBut, List.map_cons, List.map_append, List.mem_cons, List.mem_append,
    List.map_map, List.mem_map, List.mem_filter, Function.comp_apply, Prod.exists,
    List.mem_zipIdx_iff_getElem?, Bool.not_eq_true', List.contains_eq_mem, decide_eq_false_iff_not,
    or_assoc]

theorem contains_field (h : s.Unambiguous unnamed) {x : Field} (hx : s.fields[i]? = some x) :
    ((s.columnsBut unnamed left).map (·.1)).contains x.name = !left.attributes.contains i := by
  rw [Bool.eq_iff_iff, Bool.not_eq_true', ← Bool.not_eq_true, List.contains_iff_mem,
    List.contains_iff_mem, mem_names_columnsBut]
  constructor
  · rintro (hfid | ⟨y, j, ⟨hy, hj⟩, hname⟩ | ⟨g, j, ⟨hg, -⟩, hname⟩)
    · exact absurd hfid (h.ne_fidName (field_mem hx))
    · rwa [h.field_eq hx hy hname.symm]
    · exact absurd hname.symm (h.field_ne_geometry hx hg)
  · exact fun hi => .inr (.inl ⟨x, i, ⟨hx, hi⟩, rfl⟩)

theorem contains_geometry (h : s.Unambiguous unnamed) {g : GeometryField}
    (hg : s.geometryFields[i]? = some g) :
    ((s.columnsBut unnamed left).map (·.1)).contains (g.displayName unnamed) =
      !left.geometries.contains i := by
  rw [Bool.eq_iff_iff, Bool.not_eq_true', ← Bool.not_eq_true, List.contains_iff_mem,
    List.contains_iff_mem, mem_names_columnsBut]
  constructor
  · rintro (hfid | ⟨y, j, ⟨hy, -⟩, hname⟩ | ⟨g', j, ⟨hg', hj⟩, hname⟩)
    · exact absurd hfid (h.ne_fidName (geometry_mem hg))
    · exact absurd hname (h.field_ne_geometry hy hg)
    · rwa [h.geometry_eq hg hg' hname.symm]
  · exact fun hi => .inr (.inr ⟨g, i, ⟨hg, hi⟩, rfl⟩)

/-- The columns that are left of a read of all are those of the names that are left. -/
theorem make_eq_only {reading : ReadOptions} (h : s.Unambiguous reading.unnamedGeometry)
    (left : IgnoredFields) :
    ReadPlan.make s left reading = (ReadPlan.make s .none reading).only
      ((s.columnsBut reading.unnamedGeometry left).map (·.1)) := by
  have hattributes : (ReadPlan.attributeColumns s .none).filter
      (fun c => ((s.columnsBut reading.unnamedGeometry left).map (·.1)).contains c.1) =
      ReadPlan.attributeColumns s left :=
    filter_filterMap_ite_none fun e he => by
      rw [h.contains_field (List.mem_zipIdx_iff_getElem?.mp he), Bool.not_or, Bool.not_or,
        Bool.and_comm]
      exact congrArg (· && _) (Bool.and_true _)
  have hgeometries : (ReadPlan.geometryColumns s .none reading.unnamedGeometry).filter
      (fun c => ((s.columnsBut reading.unnamedGeometry left).map (·.1)).contains c.1) =
      ReadPlan.geometryColumns s left reading.unnamedGeometry :=
    filter_filterMap_ite_none fun e he => by
      rw [h.contains_geometry (List.mem_zipIdx_iff_getElem?.mp he), Bool.not_or, Bool.not_or,
        Bool.and_comm]
      exact congrArg (· && _) (Bool.and_true _)
  have hfid : ((s.columnsBut reading.unnamedGeometry left).map (·.1)).contains Row.fidName = true := by
    rw [List.contains_iff_mem, mem_names_columnsBut]
    exact .inl rfl
  rw [ReadPlan.only, ReadPlan.make, ReadPlan.make]
  simp only [List.cons_append, List.filter_cons, hfid, if_true, List.filter_append, hattributes]
  split
  · rfl
  · rw [hgeometries]

theorem nodup_names_make {reading : ReadOptions} (h : s.Unambiguous reading.unnamedGeometry)
    (left : IgnoredFields) : (ReadPlan.make s left reading).names.Nodup := by
  refine h.nodup.sublist ?_
  have hattributes : ((ReadPlan.attributeColumns s left).map (·.1)).Sublist (s.fields.map (·.name)) := by
    rw [ReadPlan.attributeColumns, filterMap_ite_none, List.map_map,
      ← ReadPlan.map_fst_zipIdx s.fields]
    exact List.filter_sublist.map _
  have hgeometries : ((ReadPlan.geometryColumns s left reading.unnamedGeometry).map (·.1)).Sublist
      (s.geometryFields.map (·.displayName reading.unnamedGeometry)) := by
    rw [ReadPlan.geometryColumns, filterMap_ite_none, List.map_map,
      ← ReadPlan.map_fst_zipIdx s.geometryFields]
    exact List.filter_sublist.map _
  rw [ReadPlan.make, ReadPlan.names, List.cons_append, List.map_cons, List.map_append]
  refine (hattributes.append ?_).cons_cons _
  split
  · exact List.nil_sublist _
  · exact hgeometries

end Schema.Unambiguous

theorem OpenLayer.Tracks.spares {t : FeatureTable} {o : OpenLayer} {reading : ReadOptions}
    (h : o.Tracks t) (hn : o.schema.Unambiguous reading.unnamedGeometry)
    (hfirst : o.schema.FirstToo o.ignored) :
    o.Spares ((o.schema.columnsBut reading.unnamedGeometry o.ignored).map (·.1)) reading where
  plan := hn.make_eq_only o.ignored
  distinct := hn.nodup_names_make .none
  view := h.sameIn hn hfirst reading

end FeatureLayer
