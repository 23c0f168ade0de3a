import FeatureLayer.Proofs.Store.Soundness
/-!
The definitions of a table, once it has any, stay as they are: only overlays give a table definitions,
and only where it has none.
-/

namespace FeatureLayer

/-- What the first schema defines, the second defines alike. -/
structure Schema.Grows (s s' : Schema) : Prop where
  fields : s.fields = [] ∨ s'.fields = s.fields
  geometryFields : s.geometryFields = [] ∨ s'.geometryFields = s.geometryFields

namespace Schema.Grows

variable {s s' s'' : Schema}

theorem refl (s : Schema) : s.Grows s := ⟨.inr rfl, .inr rfl⟩

theorem of_eq (h : s' = s) : s.Grows s' := h ▸ refl s

theorem of_empty (s : Schema) : Schema.empty.Grows s := ⟨.inl rfl, .inl rfl⟩

theorem trans (h₁ : s.Grows s') (h₂ : s'.Grows s'') : s.Grows s'' where
  fields := by
    rcases h₁.fields with h | h
    · exact .inl h
    · exact h₂.fields.imp h.symm.trans (·.trans h)
  geometryFields := by
    rcases h₁.geometryFields with h | h
    · exact .inl h
    · exact h₂.geometryFields.imp h.symm.trans (·.trans h)

theorem eq_of_defined (h : s.Grows s') (hf : s.fields ≠ []) (hg : s.geometryFields ≠ []) : s' = s :=
  congrArg₂ Schema.mk (h.fields.resolve_left hf) (h.geometryFields.resolve_left hg)

theorem field (h : s.Grows s') {i : Nat} {f : Field} (hf : s.fields[i]? = some f) :
    s'.fields[i]? = some f := by
  rcases h.fields with hnil | heq
  · rw [hnil] at hf
    cases hf
  · rw [heq]
    exact hf

theorem geometryField (h : s.Grows s') {i : Nat} {g : GeometryField}
    (hg : s.geometryFields[i]? = some g) : s'.geometryFields[i]? = some g := by
  rcases h.geometryFields with hnil | heq
  · rw [hnil] at hg
    cases hg
  · rw [heq]
    exact hg

end Schema.Grows

theorem Overlay.grows_prepare (kind : OverlayKind) (o : Options) (input method : List Field)
    (t : FeatureTable) : t.schema.Grows (prepare kind o input method t).schema where
  fields := by
    cases h : t.schema.fields with
    | nil => exact .inl rfl
    | cons => exact .inr (by simp [prepare, h])
  geometryFields := by
    cases h : t.schema.geometryFields with
    | nil => exact .inl rfl
    | cons => exact .inr (by simp [prepare, h])

namespace FeatureTable

variable {t t' : FeatureTable}

theorem Change.grows (h : t.Change t') : t.schema.Grows t'.schema := by
  cases h with
  | relabel hs => exact .of_eq hs
  | insert h =>
    obtain ⟨r', -, -, -, -, rfl⟩ := insert_ok h
    exact .refl _
  | replace h =>
    obtain ⟨r', -, -, -, rfl⟩ := replace_ok h
    exact .refl _
  | delete h =>
    obtain ⟨-, -, rfl⟩ := delete_ok h
    exact .refl _
  | define kind o input method => exact Overlay.grows_prepare kind o input method t

theorem Changes.grows (h : t.Changes t') : t.schema.Grows t'.schema := by
  induction h with
  | refl => exact .refl _
  | tail _ h ih => exact ih.trans h.grows

end FeatureTable

namespace Store

variable {s s' : Store} {q : Prop}

theorem schema_setTable (s : Store) {j : Nat} {t : FeatureTable}
    (h : t.schema = (s.table j).schema) (i : Nat) :
    ((s.setTable j t).table i).schema = (s.table i).schema := by
  rw [table_setTable]
  split
  next hj => exact hj.1 ▸ h
  next => rfl

theorem schema_askView (s : Store) (v : View) (r : ViewRequest) (i : Nat) :
    ((s.askView v r).2.2.table i).schema = (s.table i).schema := by
  have hwrite : ∀ {act : FeatureTable → View → Except Error Int × View × FeatureTable},
      View.Writes act → ((s.write v act).2.2.table i).schema = (s.table i).schema := by
    intro act hact
    refine s.schema_setTable ?_ i
    obtain ⟨m, n, h⟩ := hact.holds (s.table v.table) v
    rw [h]
    rfl
  cases r with
  | setCapabilities | setReportedCount | setFidColumn =>
    refine s.schema_setTable ?_ i
    rfl
  | create r => exact hwrite (View.writes_create r)
  | replace r => exact hwrite (View.writes_replace r)
  | upsert r => exact hwrite (View.writes_upsert r)
  | delete fid => exact hwrite (View.writes_delete fid)
  | extent | setPredicate | setSpatial | ignore | rewind | next | seek => rfl

theorem grows_addTable (s : Store) (t : FeatureTable) (i : Nat) :
    (s.table i).schema.Grows ((s.addTable t).2.table i).schema := by
  rw [table_addTable]
  split
  next h =>
    have hnone : s.table i = default := by
      rw [table, List.getElem?_eq_none (by omega)]
      rfl
    rw [hnone]
    exact .of_empty _
  next => exact .refl _

theorem Work.grows (hw : s.Work q s') (i : Nat) : (s.table i).schema.Grows (s'.table i).schema := by
  cases hw with
  | table j ht =>
    rw [table_setTable]
    split
    next hj => exact hj.1 ▸ FeatureTable.Changes.grows ht
    next => exact .refl _
  | list d name schema => exact grows_addTable s _ i
  | result _ j v => exact grows_addTable s _ i
  | source | create | remove => exact .refl _

theorem Works.grows (hw : s.Works q s') (i : Nat) :
    (s.table i).schema.Grows (s'.table i).schema := by
  induction hw with
  | refl => exact .refl _
  | tail _ hw ih => exact ih.trans (hw.grows i)

/-- A rollback takes back records, not definitions. -/
theorem Turn.schema_eq {d : Nat} {c : Control} (ht : s.Turn d c s') (i : Nat) :
    (s'.table i).schema = (s.table i).schema := by
  cases ht with
  | begin | commit => rfl
  | rollback =>
    rw [rolledBack]
    rcases table_restore (s.cut d _) _ i with hr | ⟨e, -, -, hr⟩
    · rw [hr]
      rfl
    · rw [hr]
      rfl

theorem Turn.grows {d : Nat} {c : Control} (ht : s.Turn d c s') (i : Nat) :
    (s.table i).schema.Grows (s'.table i).schema := .of_eq (ht.schema_eq i)

end Store

end FeatureLayer
