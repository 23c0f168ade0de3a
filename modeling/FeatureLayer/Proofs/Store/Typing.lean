import FeatureLayer.Proofs.Row.Typing
import FeatureLayer.Proofs.Store.Soundness

namespace FeatureLayer

namespace FeatureTable

def Typed (t : FeatureTable) : Prop := ∀ e ∈ t.records.entries, e.2.Typed t.schema

structure StaysTyped (t t' : FeatureTable) : Prop where
  schema : t'.schema = t.schema
  typed : t.Typed → t'.Typed

variable {t t' : FeatureTable}

theorem typed_make (name : String) (schema : Schema) : (make name schema).Typed := by
  intro e he
  simp [make] at he

theorem not_typed (h : ∃ e ∈ t.records.entries,
    e.2.data.length ≠ t.schema.fields.length ∨ ¬e.2.Readable t.schema) : ¬t.Typed := by
  intro ht
  obtain ⟨e, he, hlength | hreads⟩ := h
  · exact hlength (ht e he).length_data
  · exact hreads (ht e he).readable

theorem StaysTyped.refl (t : FeatureTable) : t.StaysTyped t := ⟨rfl, id⟩

theorem StaysTyped.of_relabel (hs : t'.schema = t.schema) (hr : t'.records = t.records) :
    t.StaysTyped t' where
  schema := hs
  typed h e he := hs ▸ h e (hr ▸ he)

theorem StaysTyped.trans {t'' : FeatureTable} (h : t.StaysTyped t') (h' : t'.StaysTyped t'') :
    t.StaysTyped t'' := ⟨h'.schema.trans h.schema, h'.typed ∘ h.typed⟩

theorem StaysTyped.put {r : Record} (hr : r.Typed t.schema) (k n : Int) :
    t.StaysTyped { t with records := t.records.insert k (t.filled k r), nextFid := n } where
  schema := rfl
  typed h e he := by
    rcases FidMap.mem_insert.mp he with rfl | ⟨he, -⟩
    · exact hr.filled k
    · exact h e he

theorem StaysTyped.erase (k : Int) : t.StaysTyped { t with records := t.records.erase k } where
  schema := rfl
  typed h e he := h e (List.mem_filter.mp he).1

theorem typed_of_prepare {r r' : Record} (h : t.prepare r = .ok r') (hr : t.schema.Takes r.data) :
    r.Typed t.schema := by
  unfold prepare at h
  split at h
  next => cases h
  next hshape =>
    obtain ⟨hdata, hgeometries⟩ := not_or.mp hshape
    exact ⟨not_not.mp hdata, not_not.mp hgeometries, hr⟩

theorem StaysTyped.of_insert {r : Record} {k : Int} (h : t.insert r = .ok (k, t'))
    (hr : t.schema.Takes r.data) : t.StaysTyped t' := by
  obtain ⟨r', hp, -, -, -, rfl⟩ := insert_ok h
  rw [eq_of_prepare hp]
  exact .put (typed_of_prepare hp hr) k _

theorem StaysTyped.of_replace {r : Record} {k : Int} (h : t.replace r = .ok (k, t'))
    (hr : t.schema.Takes r.data) : t.StaysTyped t' := by
  obtain ⟨r', hp, -, -, rfl⟩ := replace_ok h
  rw [eq_of_prepare hp]
  exact .put (typed_of_prepare hp hr) k _

theorem StaysTyped.of_upsert {r : Record} {k : Int} (h : t.upsert r = .ok (k, t'))
    (hr : t.schema.Takes r.data) : t.StaysTyped t' := by
  unfold upsert at h
  split at h
  · exact .of_replace h hr
  · exact .of_insert h hr

theorem StaysTyped.of_delete {k n : Int} (h : t.delete k = .ok (n, t')) : t.StaysTyped t' := by
  obtain ⟨-, -, rfl⟩ := delete_ok h
  exact .erase k

end FeatureTable

namespace View

variable {t : FeatureTable} {r : Record}

theorem staysTyped_write {v : View} {capability : LayerCapability}
    {method : String} {act : FeatureTable → Except FeatureTable.Rejection (Int × FeatureTable)}
    (h : ∀ k t', act t = .ok (k, t') → t.StaysTyped t') :
    t.StaysTyped (v.write t capability method act).2.2 := by
  rcases (write_eq t v capability method act).2 with heq | ⟨k, heq⟩
  · rw [heq]
    exact .refl t
  · exact h k _ heq

theorem staysTyped_create (hr : t.schema.Takes r.data) (v : View) :
    t.StaysTyped (v.create t r).2.2 := staysTyped_write fun _ _ h => .of_insert h hr

theorem staysTyped_replace (hr : t.schema.Takes r.data) (v : View) :
    t.StaysTyped (v.replace t r).2.2 := staysTyped_write fun _ _ h => .of_replace h hr

theorem staysTyped_upsert (hr : t.schema.Takes r.data) (v : View) :
    t.StaysTyped (v.upsert t r).2.2 := staysTyped_write fun _ _ h => .of_upsert h hr

theorem staysTyped_delete (t : FeatureTable) (v : View) (k : Int) :
    t.StaysTyped (v.delete t k).2.2 := staysTyped_write fun _ _ h => .of_delete h

end View

namespace Store

variable {s s' : Store} {i d : Nat} {q : Prop}

structure Typed (s : Store) (i : Nat) : Prop where
  listed : ∀ d, i ∈ (s.source d).tables → (s.table i).Typed
  saved : ∀ d before, (s.source d).snapshot = some before →
    ∀ e ∈ (s.source d).tables.zip before.contents, e.1 = i → (Restored (s.table i) e.2).Typed

/-- The table of that number stays typed. One that is new has typed records, or is in no source and
has been made of the records of another table. -/
structure StaysTyped (s s' : Store) (i : Nat) : Prop where
  old : i < s.tables.length → (s.table i).StaysTyped (s'.table i)
  new : s.tables.length ≤ i → (s'.table i).Typed ∨
    (∀ d, i ∉ (s'.source d).tables) ∧ ∃ j v, s'.table i = resultTable (s.table j) v

theorem typed_empty (i : Nat) : empty.Typed i where
  listed d hi := by simp [source, empty, default, DataSource.empty] at hi
  saved d before hb := by simp [source, empty, default, DataSource.empty] at hb

theorem table_of_le (h : s.tables.length ≤ i) : s.table i = default := by
  rw [table, List.getElem?_eq_none h]
  rfl

theorem typed_resultTable {t : FeatureTable} (h : t.Typed) (v : View) : (resultTable t v).Typed :=
  fun e he => h e (List.mem_filter.mp he).1

theorem StaysTyped.typed (h : s.StaysTyped s' i) (ht : ∀ j, (s.table j).Typed) :
    (s'.table i).Typed := by
  by_cases hi : i < s.tables.length
  · exact (h.old hi).typed (ht i)
  · obtain hnew | ⟨-, j, v, hj⟩ := h.new (Nat.le_of_not_lt hi)
    · exact hnew
    · rw [hj]
      exact typed_resultTable (ht j) v

theorem StaysTyped.of_tables_eq (h : s'.tables = s.tables) : s.StaysTyped s' i where
  old _ := by
    have ht : s'.table i = s.table i := by rw [table, h]; rfl
    rw [ht]
    exact .refl _
  new hi := by
    left
    rw [table_of_le (by rwa [h])]
    exact FeatureTable.typed_make "" .empty

theorem StaysTyped.refl (s : Store) (i : Nat) : s.StaysTyped s i := .of_tables_eq rfl

theorem StaysTyped.setTable {j : Nat} {t : FeatureTable}
    (h : j = i → (s.table i).StaysTyped t) : s.StaysTyped (s.setTable j t) i where
  old _ := by
    rw [table_setTable]
    split
    next hj => exact h hj.1
    next => exact .refl _
  new hi := by
    left
    rw [table_of_le (by rwa [length_setTable])]
    exact FeatureTable.typed_make "" .empty

theorem StaysTyped.addTable {t : FeatureTable}
    (h : i = s.tables.length → t.Typed ∨ (∀ d, i ∉ ((s.addTable t).2.source d).tables) ∧
      ∃ j v, t = resultTable (s.table j) v) :
    s.StaysTyped (s.addTable t).2 i where
  old hi := by
    rw [table_addTable, if_neg (by omega)]
    exact .refl _
  new hi := by
    rw [table_addTable]
    split
    next he => exact h he
    next =>
      rw [table_of_le hi]
      exact .inl (FeatureTable.typed_make "" .empty)

theorem StaysTyped.congr {s'' : Store} (h : s.StaysTyped s' i) (ht : s''.tables = s'.tables)
    (hs : ∀ d, (s''.source d).tables = (s'.source d).tables) : s.StaysTyped s'' i := by
  have htable : s''.table i = s'.table i := by rw [table, ht]; rfl
  refine ⟨fun hi => htable ▸ h.old hi, fun hi => ?_⟩
  rw [htable]
  exact (h.new hi).imp_right (And.imp_left fun hn d => hs d ▸ hn d)

theorem StaysTyped.congr_left {s₁ : Store} (h : s₁.StaysTyped s' i) (ht : s₁.tables = s.tables) :
    s.StaysTyped s' i := by
  have htable : ∀ j, s₁.table j = s.table j := fun j => by rw [table, ht]; rfl
  refine ⟨fun hi => htable i ▸ h.old (ht ▸ hi), fun hi => ?_⟩
  obtain ht' | ⟨hn, j, v, hj⟩ := h.new (ht ▸ hi)
  · exact .inl ht'
  · exact .inr ⟨hn, j, v, htable j ▸ hj⟩

theorem StaysTyped.withTable (s : Store) (d : Nat) (name : String) (schema : Schema) (i : Nat) :
    s.StaysTyped (s.withTable d (.make name schema)) i := by
  have h := StaysTyped.addTable (s := s) (i := i) fun _ => .inl (FeatureTable.typed_make name schema)
  refine ⟨h.old, fun hi => .inl ?_⟩
  show ((s.addTable _).2.table i).Typed
  rw [table_addTable]
  split
  · exact FeatureTable.typed_make name schema
  · rw [table_of_le hi]
    exact FeatureTable.typed_make "" .empty

theorem Typed.restored_congr {t t' : FeatureTable} {c : FidMap Record × Int}
    (h : (Restored t c).Typed) (hs : t'.schema = t.schema) : (Restored t' c).Typed := by
  intro e he
  show e.2.Typed t'.schema
  rw [hs]
  exact h e he

theorem Typed.works (h : s.Typed i) (hs : s.Sound) (hw : s.Works q s') (ht : s.StaysTyped s' i) :
    s'.Typed i where
  listed d hi := by
    rcases hw.listed hi with hi' | hle
    · exact (ht.old (hs.listed d i hi')).typed (h.listed d hi')
    · exact (ht.new hle).resolve_right fun hn => hn.1 d hi
  saved d before hb e he hei := by
    obtain ⟨⟨new, hnew⟩, hsnapshot⟩ := hw.source_grows d
    rw [hsnapshot] at hb
    rw [← hnew, zip_append_left (hs.aligned d before hb)] at he
    have hi := hs.listed d e.1 (List.of_mem_zip (a := e.1) (b := e.2) he).1
    exact Typed.restored_congr (h.saved d before hb e he hei) (ht.old (hei ▸ hi)).schema

theorem Typed.withSnapshot (h : s.Typed i) {snapshot : Option Snapshot}
    (hs : ∀ before, snapshot = some before → ∀ e ∈ (s.source d).tables.zip before.contents,
      e.1 = i → (Restored (s.table i) e.2).Typed) : (s.withSnapshot d snapshot).Typed i where
  listed j hi := h.listed j ((source_withSnapshot s d snapshot j).1 ▸ hi)
  saved j before hb e he hei := by
    obtain ⟨ht, hsnapshot⟩ := source_withSnapshot s d snapshot j
    rw [ht] at he
    rcases hsnapshot with hsnapshot | ⟨rfl, hsnapshot⟩
    · exact h.saved j before (hsnapshot ▸ hb) e he hei
    · exact hs before (hsnapshot ▸ hb) e he hei

theorem Typed.rolledBack (h : s.Typed i) {before : Snapshot}
    (hb : (s.source d).snapshot = some before) :
    (s.rolledBack d before).Typed i ∧ s.StaysTyped (s.rolledBack d before) i := by
  have htable : (s.table i).StaysTyped ((s.rolledBack d before).table i) := by
    rw [Store.rolledBack]
    rcases table_restore (s.cut d before.contents.length)
      (((s.source d).tables.take before.contents.length).zip before.contents) i with
      hi | ⟨e, he, hei, hi⟩
    · rw [hi]
      exact .refl _
    · rw [hi]
      exact ⟨rfl, fun _ => h.saved d before hb e (mem_zip_take he) hei⟩
  have hlength : (s.rolledBack d before).tables.length = s.tables.length := length_restore ..
  have hsource : ∀ j, (s.rolledBack d before).source j = (s.cut d before.contents.length).source j :=
    fun j => source_restore ..
  refine ⟨⟨fun j hi => ?_, fun j b hjb e he hei => ?_⟩, ⟨fun _ => htable, fun hi => ?_⟩⟩
  · rw [hsource] at hi
    exact htable.typed (h.listed j ((source_cut s d _ j).1.subset hi))
  · rw [hsource] at hjb he
    rcases (source_cut s d before.contents.length j).2 with hn | hs
    · rw [hn] at hjb
      cases hjb
    · rw [hs] at hjb he
      exact Typed.restored_congr (h.saved j b hjb e he hei) htable.schema
  · rw [table_of_le (by rwa [hlength])]
    exact .inl (FeatureTable.typed_make "" .empty)

theorem Typed.turn {c : Control} (h : s.Typed i) (ht : s.Turn d c s') :
    s'.Typed i ∧ s.StaysTyped s' i := by
  cases ht with
  | begin =>
    refine ⟨h.withSnapshot fun before hb e he hei => ?_, .of_tables_eq rfl⟩
    cases hb
    obtain ⟨hlisted, hcontents⟩ := mem_zip_map he
    subst hei
    rw [hcontents]
    exact h.listed d hlisted
  | commit => exact ⟨h.withSnapshot nofun, .of_tables_eq rfl⟩
  | rollback hb => exact h.rolledBack hb

def Vacant (s : Store) (i : Nat) : Prop :=
  (s.table i).records.entries = [] ∧ ∀ d ∈ s.sources, ∀ before ∈ d.snapshot,
    ∀ e ∈ d.tables.zip before.contents, e.1 = i → e.2.1.entries = []

instance : Decidable (s.Vacant i) := inferInstanceAs (Decidable (_ ∧ _))

theorem Vacant.saved (h : s.Vacant i) {before : Snapshot}
    (hb : (s.source d).snapshot = some before) {e : Nat × FidMap Record × Int}
    (he : e ∈ (s.source d).tables.zip before.contents) (hi : e.1 = i) : e.2.1.entries = [] := by
  cases hd : s.sources[d]? with
  | none =>
    rw [source, hd] at hb
    cases hb
  | some x =>
    rw [source, hd] at hb he
    exact h.2 x (List.mem_of_getElem? hd) before hb e he hi

structure AllTyped (s : Store) : Prop where
  tables : ∀ i, (s.table i).Typed
  typed : ∀ i, s.Typed i

theorem allTyped_empty : empty.AllTyped where
  tables _ := FeatureTable.typed_make "" .empty
  typed := typed_empty

theorem AllTyped.works (h : s.AllTyped) (hs : s.Sound) (hw : s.Works q s')
    (ht : ∀ i, s.StaysTyped s' i) : s'.AllTyped where
  tables i := (ht i).typed h.tables
  typed i := (h.typed i).works hs hw (ht i)

theorem AllTyped.turn {c : Control} (h : s.AllTyped) (ht : s.Turn d c s') : s'.AllTyped where
  tables i := ((h.typed i).turn ht).2.typed h.tables
  typed i := ((h.typed i).turn ht).1

/-- A typed table takes the place of another, of which no record stays that lacks its definitions. -/
theorem AllTyped.setTable (h : s.AllTyped) {t : FeatureTable} (ht : t.Typed)
    (hs : t.schema = (s.table i).schema ∨ s.Vacant i) : (s.setTable i t).AllTyped := by
  have htables : ∀ j, ((s.setTable i t).table j).Typed := fun j => by
    rw [table_setTable]
    split
    · exact ht
    · exact h.tables j
  refine ⟨htables, fun j => ⟨fun _ _ => htables j, fun d before hb e he hej => ?_⟩⟩
  have hsaved := (h.typed j).saved d before hb e he hej
  rw [table_setTable]
  split
  next hij =>
    obtain ⟨rfl, -⟩ := hij
    rcases hs with hs | hvacant
    · exact Typed.restored_congr hsaved hs
    · intro x hx
      cases hvacant.saved hb he hej ▸ hx
  next => exact hsaved

end Store

end FeatureLayer
