import FeatureLayer.Proofs.Layer.Step
import FeatureLayer.Proofs.Store.Growth
/-!
What a layer leaves out of its reads. It keeps the positions of the fields in its own schema, while its
view keeps those in the table; names lead from the one to the other.
-/

namespace FeatureLayer

namespace Schema

/-- The definitions apart from what readers are told of fields besides. -/
def defined (s : Schema) : Schema where
  fields := s.fields.map ({ · with ignored := false })
  geometryFields := s.geometryFields.map ({ · with ignored := false, spatialRef := none })

/-- The fields that names stand for: an attribute by its name, and where no attribute has the name the
first geometry by the word for it, or a geometry by the name it goes by. -/
def named (s : Schema) (unnamed : String) (names : List String) : IgnoredFields where
  attributes := (List.range s.fields.length).filter fun i =>
    names.any fun x => s.fieldIndex? x = some i
  geometries := (List.range s.geometryFields.length).filter fun i =>
    names.any fun x => (s.fieldIndex? x).isNone &&
      if Text.sameWord x Layer.geometryWord then i = 0 else s.geometryIndex? x unnamed = some i

def selected (s : Schema) (unnamed : String) (names : List String) : IgnoredFields :=
  let found := names.filterMap (Layer.selectedOfName? s unnamed)
  ⟨found.flatMap (·.attributes), found.flatMap (·.geometries)⟩

def namesBut (s : Schema) (unnamed : String) (left : IgnoredFields) : List String :=
  (s.fields.zipIdx.filter fun e => !left.attributes.contains e.2).map (·.1.name) ++
    (s.geometryFields.zipIdx.filter fun e => !left.geometries.contains e.2).map
      (·.1.displayName unnamed)

variable {s s' : Schema}

theorem defined_of_bare (h : s'.bare = s.bare) : s'.defined = s.defined := by
  have hgeometries := congrArg Schema.geometryFields h
  exact congrArg₂ Schema.mk (congrArg _ (fields_of_bare h)) hgeometries

theorem Grows.defined (h : s.Grows s') : s.defined.Grows s'.defined where
  fields := h.fields.imp (fun hnil => by simp [Schema.defined, hnil]) (congrArg (List.map _))
  geometryFields :=
    h.geometryFields.imp (fun hnil => by simp [Schema.defined, hnil]) (congrArg (List.map _))

theorem Grows.bare (h : s.Grows s') : s.bare.Grows s'.bare where
  fields := h.fields
  geometryFields :=
    h.geometryFields.imp (fun hnil => by simp [Schema.bare, hnil]) (congrArg (List.map _))

theorem Grows.name_field (h : s.defined.Grows s'.defined) {i : Nat} {x : Field}
    (hx : s.fields[i]? = some x) :
    ∃ y, s'.fields[i]? = some y ∧ y.name = x.name ∧ y.kind = x.kind := by
  have hx' := h.field (i := i) (f := { x with ignored := false }) (by simp [Schema.defined, hx])
  simp only [Schema.defined, List.getElem?_map, Option.map_eq_some_iff] at hx'
  obtain ⟨y, hy, heq⟩ := hx'
  exact ⟨y, hy, (congrArg Field.name heq :), (congrArg Field.kind heq :)⟩

theorem Grows.name_geometryField (h : s.defined.Grows s'.defined) {i : Nat} {x : GeometryField}
    (hx : s.geometryFields[i]? = some x) :
    ∃ y, s'.geometryFields[i]? = some y ∧ y.name = x.name := by
  have hx' := h.geometryField (i := i) (g := { x with ignored := false, spatialRef := none })
    (by simp [Schema.defined, hx])
  simp only [Schema.defined, List.getElem?_map, Option.map_eq_some_iff] at hx'
  obtain ⟨y, hy, heq⟩ := hx'
  exact ⟨y, hy, (congrArg GeometryField.name heq :)⟩

theorem contains_flatMap_filterMap {find : String → Option IgnoredFields}
    (part : IgnoredFields → List Nat) (names : List String) (i : Nat) :
    ((names.filterMap find).flatMap part).contains i =
      names.any fun x => (find x).any fun p => (part p).contains i := by
  rw [Bool.eq_iff_iff]
  simp only [List.contains_iff_mem, List.mem_flatMap, List.mem_filterMap, List.any_eq_true,
    Option.any_eq_true]
  exact ⟨fun ⟨p, ⟨x, hx, hp⟩, hi⟩ => ⟨x, hx, p, hp, hi⟩,
    fun ⟨x, hx, p, hp, hi⟩ => ⟨p, ⟨x, hx, hp⟩, hi⟩⟩

theorem named_eq (s : Schema) (unnamed : String) (names : List String) :
    let found := names.filterMap (Layer.fieldOfName? s unnamed)
    (⟨Layer.positions s.fields.length (found.flatMap (·.attributes)),
      Layer.positions s.geometryFields.length (found.flatMap (·.geometries))⟩ : IgnoredFields) =
      s.named unnamed names := by
  intro found
  refine congrArg₂ IgnoredFields.mk (List.filter_congr fun i hi => ?_)
    (List.filter_congr fun i hi => ?_)
  all_goals
    rw [contains_flatMap_filterMap]
    congr 1
    funext x
    unfold Layer.fieldOfName?
  · cases s.fieldIndex? x with
    | some j => simp [eq_comm]
    | none =>
      simp only [reduceCtorEq, decide_false]
      split
      · split <;> rfl
      · cases s.geometryIndex? x unnamed <;> rfl
  · cases s.fieldIndex? x with
    | some j => rfl
    | none =>
      simp only [Option.isNone_none, Bool.true_and]
      split
      · -- there is a first geometry if there is any
        have hne : s.geometryFields.isEmpty = false := by
          rw [List.isEmpty_eq_false_iff]
          intro hnil
          simp [hnil] at hi
        simp [hne]
      · cases s.geometryIndex? x unnamed <;> simp [eq_comm]

end Schema

/-- Each field at these positions bears one of the names, or is the first geometry, with the word for
it among the names. -/
structure IgnoredFields.BearOneOf (i : IgnoredFields) (names : List String) (s : Schema) : Prop where
  attributes : ∀ j ∈ i.attributes, ∃ f, s.fields[j]? = some f ∧ f.name ∈ names
  geometries : ∀ j ∈ i.geometries,
    (j = 0 ∧ ∃ x ∈ names, Text.sameWord x Layer.geometryWord = true) ∨
      ∃ g, s.geometryFields[j]? = some g ∧ g.name ≠ "" ∧ g.name ∈ names

namespace IgnoredFields

variable {i : IgnoredFields} {names names' : List String} {s s' : Schema}

theorem bearOneOf_none (names : List String) (s : Schema) : none.BearOneOf names s where
  attributes _ h := absurd h List.not_mem_nil
  geometries _ h := absurd h List.not_mem_nil

theorem BearOneOf.mono (h : i.BearOneOf names s) (hs : s.Grows s') (hn : names ⊆ names') :
    i.BearOneOf names' s' where
  attributes j hj := by
    obtain ⟨f, hf, hmem⟩ := h.attributes j hj
    exact ⟨f, hs.field hf, hn hmem⟩
  geometries j hj := by
    rcases h.geometries j hj with ⟨hzero, x, hx, hword⟩ | ⟨g, hg, hne, hmem⟩
    · exact .inl ⟨hzero, x, hn hx, hword⟩
    · exact .inr ⟨g, hs.geometryField hg, hne, hn hmem⟩

end IgnoredFields

/-- A view that is told names leaves out fields that bear them. -/
theorem View.bearOneOf_ignore {t : FeatureTable} {v v' : View} {names : List String}
    (h : v.ignore t names = (.ok (), v')) : v'.ignored.BearOneOf names t.schema := by
  unfold View.ignore at h
  split at h
  · cases h
  · cases h
    constructor
    · intro j hj
      simp only [List.mem_flatMap, List.mem_filterMap] at hj
      obtain ⟨p, ⟨x, hx, hp⟩, hj⟩ := hj
      unfold View.ignoredField? at hp
      split at hp
      · cases hp
        cases hj
      · split at hp
        · cases hp
          cases hj
        · split at hp
          next k hk =>
            cases hp
            obtain rfl := List.mem_singleton.mp hj
            obtain ⟨hlt, hname, -⟩ := List.findIdx?_eq_some_iff_getElem.mp hk
            refine ⟨_, List.getElem?_eq_getElem hlt, ?_⟩
            rw [of_decide_eq_true hname]
            exact hx
          next =>
            obtain ⟨k, -, rfl⟩ := Option.map_eq_some_iff.mp hp
            cases hj
    · intro j hj
      simp only [List.mem_flatMap, List.mem_filterMap] at hj
      obtain ⟨p, ⟨x, hx, hp⟩, hj⟩ := hj
      unfold View.ignoredField? at hp
      split at hp
      · cases hp
        cases hj
      · split at hp
        next hword =>
          cases hp
          rw [Bool.and_eq_true] at hword
          exact .inl ⟨List.mem_singleton.mp hj, x, hx, hword.1⟩
        next =>
          split at hp
          · cases hp
            cases hj
          · obtain ⟨k, hk, rfl⟩ := Option.map_eq_some_iff.mp hp
            obtain rfl := List.mem_singleton.mp hj
            obtain ⟨hlt, hname, -⟩ := List.findIdx?_eq_some_iff_getElem.mp hk
            simp only [Bool.and_eq_true, Bool.not_eq_true', decide_eq_true_eq] at hname
            refine .inr ⟨_, List.getElem?_eq_getElem hlt, ?_, hname.2 ▸ hx⟩
            simpa using hname.1

theorem Faults.bearOneOf_ignoreFields {f : Faults} {s : Store} {v v' : View} {names : List String}
    (h : f.ignoreFields s v names = (.ok (), v')) :
    v'.ignored.BearOneOf names (s.table v.table).schema := by
  unfold ignoreFields at h
  split at h
  · cases h
  · exact View.bearOneOf_ignore h

/-- The columns of a schema but for some fields: the identifier, the attributes, then the geometries. -/
def Schema.columnsBut (s : Schema) (unnamed : String) (left : IgnoredFields) :
    List (String × ColumnSource) :=
  (Row.fidName, .fid) ::
    ((s.fields.zipIdx.filter fun e => !left.attributes.contains e.2).map fun e =>
      (e.1.name, .attribute e.2 e.1.kind e.1.subkind)) ++
    (s.geometryFields.zipIdx.filter fun e => !left.geometries.contains e.2).map fun e =>
      (e.1.displayName unnamed, .geometry e.2)

theorem filterMap_ite_none {α β : Type} (p : α → Bool) (g : α → β) (xs : List α) :
    (xs.filterMap fun x => if p x then none else some (g x)) = (xs.filter fun x => !p x).map g := by
  induction xs with
  | nil => rfl
  | cons x xs ih =>
    by_cases hp : p x
    · simp [hp, ih]
    · simp [hp, ih]

def View.readingAll (v : View) : View := { v with ignored := .none }

@[simp] theorem View.table_readingAll (v : View) : v.readingAll.table = v.table := rfl

def OpenLayer.readingAll (o : OpenLayer) : OpenLayer :=
  { o with view := o.view.readingAll, ignored := .none }

@[simp] theorem OpenLayer.view_readingAll (o : OpenLayer) : o.readingAll.view = o.view.readingAll := rfl

@[simp] theorem OpenLayer.filters_readingAll (o : OpenLayer) : o.readingAll.filters = o.filters := rfl

namespace Layer

variable (f : Faults) (s : Store) (l : Layer)

/-- Names that are not accepted change nothing; those that are say what is left out, and no more. -/
theorem setIgnored_cases (names : List String) :
    ((∃ e, (l.setIgnored f s names).1 = .error e) ∧ l.Keeps false (l.setIgnored f s names).2) ∨
      ∃ o view, l.state = some o ∧
        f.ignoreFields s o.view
          (storeNames o.schema (o.schema.named l.reading.unnamedGeometry names)) = (.ok (), view) ∧
        l.setIgnored f s names = (.ok (), l.withState
          { o with view, ignored := o.schema.named l.reading.unnamedGeometry names }) := by
  unfold setIgnored
  cases h : l.state with
  | none => exact .inl ⟨⟨_, rfl⟩, .refl l⟩
  | some o =>
    simp only [Schema.named_eq]
    split
    · exact .inl ⟨⟨_, rfl⟩, .refl l⟩
    · split
      · exact .inl ⟨⟨_, rfl⟩, .refl l⟩
      · rcases f.ignoreFields_cases s o.view
            (storeNames o.schema (o.schema.named l.reading.unnamedGeometry names)) with
          ⟨e, d, heq⟩ | ⟨i, heq, -⟩
        · rw [heq]
          exact .inl ⟨⟨e, rfl⟩, keeps_withState h (o.keeps_lastError d o.lastWrite)⟩
        · rw [heq]
          exact .inr ⟨o, _, rfl, heq, rfl⟩

theorem setSelected_cases (names : List String) :
    ((∃ e, (l.setSelected f s names).1 = .error e) ∧ (l.setSelected f s names).2 = l) ∨
      ∃ o, l.state = some o ∧
        l.setSelected f s names = l.setIgnored f s
          (o.schema.namesBut l.reading.unnamedGeometry
            (o.schema.selected l.reading.unnamedGeometry names)) := by
  unfold setSelected
  cases h : l.state with
  | none => exact .inl ⟨⟨_, rfl⟩, rfl⟩
  | some o =>
    simp only
    split
    · exact .inl ⟨⟨_, rfl⟩, rfl⟩
    · exact .inr ⟨o, rfl, rfl⟩

variable {f s l} in
theorem setIgnored_nil {o : OpenLayer} (ho : l.state = some o)
    (hcan : f.viewCan s o.view "IgnoreFields" = true) (hf : f.ignore = none) :
    l.setIgnored f s [] = (.ok (), l.withState o.readingAll) := by
  have hnamed := o.schema.named_eq l.reading.unnamedGeometry []
  simp only [List.filterMap_nil, List.flatMap_nil] at hnamed
  have hnone : o.schema.named l.reading.unnamedGeometry [] = .none := by
    simp [Schema.named, IgnoredFields.none]
  have hignore : f.ignoreFields s o.view (storeNames o.schema .none) =
      (.ok (), { o.view with ignored := .none }) := by
    unfold Faults.ignoreFields
    rw [hf]
    rfl
  unfold setIgnored
  rw [ho]
  simp only [hcan, Bool.not_true, Bool.false_eq_true, if_false, List.find?_nil, List.filterMap_nil,
    List.flatMap_nil, hnamed, hnone, hignore]
  rfl

end Layer

end FeatureLayer
