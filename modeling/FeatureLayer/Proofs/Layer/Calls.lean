import FeatureLayer.Layer.Request
import FeatureLayer.Proofs.Store.Soundness

namespace FeatureLayer

/-- A schema apart from what readers are told of geometry fields besides. -/
def Schema.bare (s : Schema) : Schema :=
  { s with geometryFields := s.geometryFields.map ({ · with ignored := false, spatialRef := none }) }

namespace Schema

variable {s s' : Schema}

theorem fields_of_bare (h : s'.bare = s.bare) : s'.fields = s.fields :=
  (congrArg Schema.fields h :)

theorem length_geometryFields_of_bare (h : s'.bare = s.bare) :
    s'.geometryFields.length = s.geometryFields.length := by
  have := congrArg (fun s : Schema => s.geometryFields.length) h
  simpa [bare] using this

theorem meets_of_bare (h : s'.bare = s.bare) {r : Record} (hm : r.Meets s) : r.Meets s' where
  present := fields_of_bare h ▸ hm.present
  shaped i g hg hn := by
    have hget := congrArg (fun s : Schema => s.geometryFields[i]?.map (·.nullable)) h
    simp only [bare, List.getElem?_map, hg, Option.map_some, Option.map_map, Function.comp_def] at hget
    obtain ⟨g', hg', hnull⟩ := Option.map_eq_some_iff.mp hget.symm
    exact hm.shaped i g' hg' (hnull.trans hn)
  reached := fields_of_bare h ▸ hm.reached

end Schema

namespace Faults

variable (f : Faults) (s : Store) {q : Prop}

theorem next_eq (v : View) : ∃ p, (f.next s v).2 = { v with position := p } :=
  View.next_eq (s.table v.table) v

theorem ignoreFields_cases (v : View) (names : List String) :
    (∃ e d, f.ignoreFields s v names = (.error e, { v with lastError := d })) ∨
      ∃ i, f.ignoreFields s v names = (.ok (), { v with ignored := i }) ∧
        (names = [] → i = .none) := by
  unfold ignoreFields
  split
  · exact .inl ⟨_, v.lastError, rfl⟩
  · unfold View.ignore
    split
    · exact .inl ⟨_, _, rfl⟩
    · exact .inr ⟨_, rfl, by rintro rfl; rfl⟩

theorem extentOf_eq (v : View) (force : Bool) :
    ∃ e, (f.extentOf s v force).2 = { v with lastError := e } := by
  unfold extentOf
  split
  · exact ⟨v.lastError, rfl⟩
  · exact View.extent_eq _ v force

theorem none_setPredicate (call : Nat) (v : View) (text : Option String) :
    none.setPredicate s call v text = v.setPredicate (s.table v.table) text := rfl

/-- A predicate that is refused before it is read leaves the view as it is; others rewind it. -/
theorem setPredicate_eq (call : Nat) (v : View) (text : Option String) :
    (∃ e, f.setPredicate s call v text = (.error e, v)) ∨
      ∃ p e, (f.setPredicate s call v text).2 =
        { v with position := .none, predicate := p, lastError := e } := by
  unfold setPredicate
  split
  · exact .inl ⟨_, rfl⟩
  · exact .inr (View.setPredicate_eq _ v text)

theorem setPredicate_handle (call : Nat) (v : View) (text : Option String) :
    (f.setPredicate s call v text).2.handle = v.handle := by
  rcases f.setPredicate_eq s call v text with ⟨e, he⟩ | ⟨p, e, he⟩
  · rw [he]
  · rw [he]
    rfl

theorem setPredicate_spatial (call : Nat) (v : View) (text : Option String) :
    (f.setPredicate s call v text).2.spatial = v.spatial := by
  rcases f.setPredicate_eq s call v text with ⟨e, he⟩ | ⟨p, e, he⟩
  · rw [he]
  · rw [he]

theorem setPredicate_ignored (call : Nat) (v : View) (text : Option String) :
    (f.setPredicate s call v text).2.ignored = v.ignored := by
  rcases f.setPredicate_eq s call v text with ⟨e, he⟩ | ⟨p, e, he⟩
  · rw [he]
  · rw [he]

theorem setPredicate_position (call : Nat) (v : View) (text : Option String) :
    (f.setPredicate s call v text).2.position = .none ∨
      (f.setPredicate s call v text).2.position = v.position := by
  rcases f.setPredicate_eq s call v text with ⟨e, he⟩ | ⟨p, e, he⟩
  · rw [he]
    exact .inr rfl
  · rw [he]
    exact .inl rfl

theorem write_eq {act : FeatureTable → View → Except Error Int × View × FeatureTable}
    (h : View.Writes act) (fault : Option Error) (v : View) :
    (∃ e, (write s fault v act).2.1 = { v with lastError := e }) ∧
      s.Works q (write s fault v act).2.2 := by
  unfold write
  split
  · exact ⟨⟨v.lastError, rfl⟩, .refl⟩
  · exact ⟨h.view _ v, s.works_write h v⟩

theorem connect_ok {f : Faults} {s : Store} {name : String} {access : Access} {c : Connection}
    (h : f.connect s name access = .ok c) : s.find? name = some c.source ∧ c.access = access := by
  unfold connect orElse Store.connect at h
  split at h
  · cases h
  · split at h
    next hfind =>
      cases h
      exact ⟨hfind, rfl⟩
    next => cases h

theorem layerByName_ok {f : Faults} {s : Store} {c : Connection} {name : String} {v : View}
    (h : f.layerByName s c name = .ok v) : s.layerByName c name = .ok v := by
  unfold layerByName orElse at h
  split at h
  · cases h
  · exact h

theorem runQuery_cases (c : Connection) (text : String) (spatial : Option Geometry)
    (dialect : Option String) :
    ((f.runQuery s c text spatial dialect).2 = (c, s) ∧
        ∀ v, (f.runQuery s c text spatial dialect).1 ≠ .ok (some v)) ∨
      ((f.runQuery s c text spatial dialect).2 = (s.query c text spatial dialect).2 ∧
        (f.runQuery s c text spatial dialect).1 = (s.query c text spatial dialect).1.map some) := by
  unfold runQuery
  split
  · exact .inl ⟨rfl, nofun⟩
  · exact .inl ⟨rfl, nofun⟩
  · exact .inr ⟨rfl, rfl⟩

theorem runOverlay_spec (A : RegionAlgebra) (kind : OverlayKind) (input method result : View)
    (o : Overlay.Options) (answer : Nat → Bool) :
    let out := f.runOverlay s A kind input method result o answer
    (∃ e, out.input = { input with lastError := e }) ∧
      (∃ e, out.result = { result with lastError := e }) ∧ s.Works q out.store := by
  unfold runOverlay
  split
  · exact ⟨⟨input.lastError, rfl⟩, ⟨result.lastError, rfl⟩, .refl⟩
  · exact Overlay.run_spec A kind s input method result o answer

/-- A request about a transaction is refused by the fault, or answered as the store does. -/
theorem beginOn_cases (c : Connection) (force : Bool) :
    (f ≠ .none ∧ ∃ e, f.beginOn s c force = (.error e, c, s)) ∨
      s.Answered c (.begin force) (f.beginOn s c force) := by
  unfold beginOn
  split
  next e he => exact .inl ⟨fun hf => by simp [hf, Faults.none] at he, e, rfl⟩
  next => exact .inr (s.begin_answered c force)

theorem finishOn_cases (c : Connection) (commit : Bool) :
    (f ≠ .none ∧ ∃ e, (if commit then f.commitOn s c else f.rollbackOn s c) = (.error e, c, s)) ∨
      s.Answered c (.ending commit) (if commit then f.commitOn s c else f.rollbackOn s c) := by
  cases commit with
  | true =>
    rw [if_pos rfl]
    unfold commitOn
    split
    next e he => exact .inl ⟨fun hf => by simp [hf, Faults.none] at he, e, rfl⟩
    next => exact .inr (s.commit_answered c)
  | false =>
    rw [if_neg Bool.false_ne_true]
    unfold rollbackOn
    split
    next e he => exact .inl ⟨fun hf => by simp [hf, Faults.none] at he, e, rfl⟩
    next => exact .inr (s.rollback_answered c)

theorem source_beginOn (c : Connection) (force : Bool) :
    (f.beginOn s c force).2.1.source = c.source := by
  rcases f.beginOn_cases s c force with ⟨-, e, heq⟩ | ha
  · rw [heq]
  · exact ha.source_eq

theorem source_finishOn (c : Connection) (commit : Bool) :
    (if commit then f.commitOn s c else f.rollbackOn s c).2.1.source = c.source := by
  rcases f.finishOn_cases s c commit with ⟨-, e, heq⟩ | ha
  · rw [heq]
  · exact ha.source_eq

theorem getElem?_inspect (v : View) (unnamed : String) (i : Nat) :
    ∃ r, (f.inspect s v unnamed).1.geometryFields[i]? =
      (s.table v.table).schema.geometryFields[i]?.map fun g =>
        { g with ignored := v.ignored.geometries.contains i, spatialRef := r } := by
  have hreferenced : ∀ g : GeometryField,
      ∃ r, (f.referenced s v unnamed g i).1 = { g with spatialRef := r } := by
    intro g
    unfold referenced
    simp only
    split
    · split <;> exact ⟨_, rfl⟩
    · exact ⟨_, rfl⟩
  simp only [inspect, View.schema, List.getElem?_map, List.getElem?_zipIdx]
  cases (s.table v.table).schema.geometryFields[i]? with
  | none => exact ⟨.none, rfl⟩
  | some g =>
    rw [Nat.zero_add]
    obtain ⟨r, hr⟩ := hreferenced
      { g with ignored := v.ignored.geometries.contains i, spatialRef := .none }
    exact ⟨r, congrArg some hr⟩

theorem bare_inspect {v : View} (hv : v.ignored = .none)
    (unnamed : String) : (f.inspect s v unnamed).1.bare = (s.table v.table).schema.bare := by
  have hfields : (v.schema (s.table v.table)).fields = (s.table v.table).schema.fields := by
    refine List.ext_getElem? fun i => ?_
    simp [View.schema, hv, IgnoredFields.none]
  have hgeometries : (f.inspect s v unnamed).1.bare.geometryFields =
      (s.table v.table).schema.bare.geometryFields := by
    refine List.ext_getElem? fun i => ?_
    obtain ⟨r, hr⟩ := f.getElem?_inspect s v unnamed i
    simp only [Schema.bare, List.getElem?_map, hr, Option.map_map]
    rfl
  exact congrArg₂ Schema.mk hfields hgeometries

theorem shown_inspect {v : View} (hv : v.ignored = .none) (unnamed : String) :
    ∀ g ∈ (f.inspect s v unnamed).1.geometryFields, g.ignored = false := by
  intro g hg
  obtain ⟨i, hi⟩ := List.mem_iff_getElem?.mp hg
  obtain ⟨r, hr⟩ := f.getElem?_inspect s v unnamed i
  obtain ⟨x, -, rfl⟩ := Option.map_eq_some_iff.mp (hr.symm.trans hi)
  simp [hv, IgnoredFields.none]

end Faults

end FeatureLayer
