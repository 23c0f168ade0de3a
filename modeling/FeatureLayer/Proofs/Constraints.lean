import FeatureLayer.Overlay
import FeatureLayer.Proofs.FidMap
import Mathlib.Order.Compare
import Mathlib.Logic.Relation
/-!
What the schema of a table promises about its records. Every change of a table keeps the promise.
-/

namespace FeatureLayer

theorem Binary.same_comm {F : Format} (x y : Binary F) : x.same y = y.same x := by
  have hk : (compare x.key y.key == .eq) = (compare y.key x.key == .eq) := by
    rw [Bool.eq_iff_iff]
    simp only [beq_iff_eq, Std.LawfulEqOrd.compare_eq_iff_eq]
    exact eq_comm
  unfold Binary.same Binary.compare?
  rw [Bool.or_comm]
  split
  · rfl
  · simpa using hk

theorem Stamp.same_comm (a b : Stamp) : a.same b = b.same a := by
  simp only [Stamp.same, Binary.same_comm a.second, eq_comm]

namespace Datum

theorem sameReals_comm (xs ys : List Double) : sameReals xs ys = sameReals ys xs := by
  induction xs generalizing ys with
  | nil => cases ys <;> rfl
  | cons x xs ih =>
    cases ys with
    | nil => rfl
    | cons y ys => simp only [sameReals, Binary.same_comm x, ih ys]

theorem same_comm (a b : Datum) : a.same b = b.same a := by
  cases a <;> cases b <;>
    first
    | exact Binary.same_comm _ _
    | exact Stamp.same_comm _ _
    | exact sameReals_comm _ _
    | simp only [same, eq_comm]

end Datum

namespace Record

structure Meets (s : Schema) (r : Record) : Prop where
  present : ∀ (i : Nat) (f : Field), s.fields[i]? = some f → f.nullable = false →
    ∃ d : Datum, r.data[i]? = some d ∧ d.isAbsent = false
  shaped : ∀ (i : Nat) (g : GeometryField), s.geometryFields[i]? = some g → g.nullable = false →
    ∃ x, r.geometries[i]? = some (some x)
  /-- Unique fields lie within the record, so others can be compared with it. -/
  reached : ∀ (i : Nat) (f : Field), s.fields[i]? = some f → f.unique = true → i < r.data.length

def Differ (s : Schema) (a b : Record) : Prop :=
  ∀ (i : Nat) (f : Field) (x y : Datum), s.fields[i]? = some f → f.unique = true →
    a.data[i]? = some x → b.data[i]? = some y → x.isAbsent = false → y.isAbsent = false →
      x.same y = false

theorem Differ.symm {s : Schema} {a b : Record} (h : a.Differ s b) : b.Differ s a := by
  intro i f x y hf hu hx hy hxa hya
  rw [Datum.same_comm]
  exact h i f y x hf hu hy hx hya hxa

end Record

/-- Each field of the first schema is the second's field in that place, or accepts anything. -/
structure Schema.Relaxes (s' s : Schema) : Prop where
  fields : ∀ (i : Nat) (f : Field), s'.fields[i]? = some f →
    s.fields[i]? = some f ∨ (f.nullable = true ∧ f.unique = false)
  geometryFields : ∀ (i : Nat) (g : GeometryField), s'.geometryFields[i]? = some g →
    s.geometryFields[i]? = some g ∨ g.nullable = true

theorem Schema.Relaxes.refl (s : Schema) : s.Relaxes s := ⟨fun _ _ h => .inl h, fun _ _ h => .inl h⟩

theorem Record.Meets.relax {s s' : Schema} {r : Record} (h : r.Meets s) (hs : s'.Relaxes s) :
    r.Meets s' where
  present i f hf hn := by
    rcases hs.fields i f hf with hf | ⟨hl, -⟩
    · exact h.present i f hf hn
    · simp [hl] at hn
  shaped i g hg hn := by
    rcases hs.geometryFields i g hg with hg | hl
    · exact h.shaped i g hg hn
    · simp [hl] at hn
  reached i f hf hu := by
    rcases hs.fields i f hf with hf | ⟨-, hl⟩
    · exact h.reached i f hf hu
    · simp [hl] at hu

theorem Record.Differ.relax {s s' : Schema} {a b : Record} (h : a.Differ s b) (hs : s'.Relaxes s) :
    a.Differ s' b := by
  intro i f x y hf hu
  rcases hs.fields i f hf with hf | ⟨-, hl⟩
  · exact h i f x y hf hu
  · simp [hl] at hu

namespace Overlay

theorem lax_of_mem_resultFields {kind : OverlayKind} {o : Options} {input method : List Field}
    {f : Field} (h : f ∈ resultFields kind o input method) :
    f.nullable = true ∧ f.unique = false := by
  have hown : ∀ f ∈ input.map (resultField o.inputPrefix), f.nullable = true ∧ f.unique = false := by
    intro f hf
    obtain ⟨g, -, rfl⟩ := List.mem_map.mp hf
    exact ⟨rfl, rfl⟩
  simp only [resultFields] at h
  split at h
  · generalize input.map (resultField o.inputPrefix) = own at h hown
    induction method generalizing own with
    | nil => exact hown f h
    | cons g method ih =>
      refine ih _ h ?_
      intro f hf
      simp only at hf
      split at hf
      · exact hown f hf
      · rcases List.mem_append.mp hf with hf | hf
        · exact hown f hf
        · rw [List.mem_singleton.mp hf]
          exact ⟨rfl, rfl⟩
  · exact hown f h

theorem prepare_relaxes (kind : OverlayKind) (o : Options) (input method : List Field)
    (t : FeatureTable) : (prepare kind o input method t).schema.Relaxes t.schema where
  fields i f hf := by
    simp only [prepare] at hf
    split at hf
    · exact .inr (lax_of_mem_resultFields (List.mem_of_getElem? hf))
    · exact .inl hf
  geometryFields i g hg := by
    simp only [prepare] at hg
    split at hg
    · rw [List.mem_singleton.mp (List.mem_of_getElem? hg)]
      exact .inr rfl
    · exact .inl hg

end Overlay

namespace FeatureTable

/-- The constraints that hold of the contents of a table. -/
structure Sound (t : FeatureTable) : Prop where
  keyed : ∀ e ∈ t.records.entries, e.2.fid = some e.1
  named : ∀ e ∈ t.records.entries, e.1 ≠ Record.missingFid
  bounded : ∀ e ∈ t.records.entries, e.1 < maxFid
  next_pos : 1 ≤ t.nextFid
  next_le : t.nextFid ≤ maxFid
  meets : ∀ e ∈ t.records.entries, e.2.Meets t.schema
  differ : ∀ a ∈ t.records.entries, ∀ b ∈ t.records.entries, a.1 ≠ b.1 → a.2.Differ t.schema b.2

/-- The next identifier is above all that are in use. -/
def Counted (t : FeatureTable) : Prop := ∀ e ∈ t.records.entries, e.1 < t.nextFid

def holding (t : FeatureTable) (records : FidMap Record) (nextFid : Int) : FeatureTable :=
  { t with records, nextFid }

/-- What can become of a table at once. -/
inductive Change (t : FeatureTable) : FeatureTable → Prop
  | relabel {t' : FeatureTable} (hs : t'.schema = t.schema) (hr : t'.records = t.records)
      (hn : t'.nextFid = t.nextFid) : Change t t'
  | insert {r : Record} {fid : Int} {t' : FeatureTable} (h : t.insert r = .ok (fid, t')) : Change t t'
  | replace {r : Record} {fid : Int} {t' : FeatureTable} (h : t.replace r = .ok (fid, t')) : Change t t'
  | delete {k fid : Int} {t' : FeatureTable} (h : t.delete k = .ok (fid, t')) : Change t t'
  | define (kind : OverlayKind) (o : Overlay.Options) (input method : List Field) :
      Change t (Overlay.prepare kind o input method t)

abbrev Changes : FeatureTable → FeatureTable → Prop := Relation.ReflTransGen Change

theorem change_upsert {t t' : FeatureTable} {r : Record} {fid : Int}
    (h : t.upsert r = .ok (fid, t')) : t.Change t' := by
  unfold upsert at h
  split at h
  · exact .replace h
  · exact .insert h

/-! ### What is checked before a record goes in -/

theorem present_of_missingField?_eq_none {s : Schema} {r : Record}
    (h : missingField? s r = none) (hl : r.data.length = s.fields.length) {i : Nat} {f : Field}
    (hf : s.fields[i]? = some f) (hn : f.nullable = false) :
    ∃ d : Datum, r.data[i]? = some d ∧ d.isAbsent = false := by
  obtain ⟨hi, -⟩ := List.getElem?_eq_some_iff.mp hf
  have hd : r.data[i]? = some r.data[i] := List.getElem?_eq_getElem (by omega)
  have hmem : (f, r.data[i]) ∈ s.fields.zip r.data :=
    List.mem_of_getElem? (List.getElem?_zip_eq_some.mpr ⟨hf, hd⟩)
  simp only [missingField?, Option.orElse_eq_orElse, Option.orElse_eq_or,
    Option.or_eq_none_iff, Option.map_eq_none_iff, List.find?_eq_none] at h
  have := h.1 _ hmem
  exact ⟨_, hd, by simpa [hn] using this⟩

theorem shaped_of_missingField?_eq_none {s : Schema} {r : Record}
    (h : missingField? s r = none) (hl : r.geometries.length = s.geometryFields.length) {i : Nat}
    {g : GeometryField} (hg : s.geometryFields[i]? = some g) (hn : g.nullable = false) :
    ∃ x, r.geometries[i]? = some (some x) := by
  obtain ⟨hi, -⟩ := List.getElem?_eq_some_iff.mp hg
  have hd : r.geometries[i]? = some r.geometries[i] := List.getElem?_eq_getElem (by omega)
  have hmem : (g, r.geometries[i]) ∈ s.geometryFields.zip r.geometries :=
    List.mem_of_getElem? (List.getElem?_zip_eq_some.mpr ⟨hg, hd⟩)
  simp only [missingField?, Option.orElse_eq_orElse, Option.orElse_eq_or,
    Option.or_eq_none_iff, Option.map_eq_none_iff, List.find?_eq_none] at h
  have := h.2 _ hmem
  simp only [hn, Bool.not_false, Bool.true_and, Option.isNone_iff_eq_none] at this
  obtain ⟨x, hx⟩ := Option.ne_none_iff_exists'.mp this
  exact ⟨x, by rw [hd, hx]⟩

theorem differ_of_duplicateField?_eq_none {t : FeatureTable} {r : Record}
    (h : t.duplicateField? r = none) {e : Int × Record} (he : e ∈ t.records.entries)
    (hne : e.2.fid ≠ r.fid) : e.2.Differ t.schema r := by
  intro i f x y hf hu hx hy _ hya
  have hmem : ((f, y), i) ∈ (t.schema.fields.zip r.data).zipIdx :=
    List.mem_zipIdx_iff_getElem?.mpr (List.getElem?_zip_eq_some.mpr ⟨hf, hy⟩)
  simp only [duplicateField?, Option.map_eq_none_iff, List.find?_eq_none] at h
  have := h _ hmem
  simp only [hu, hya, Bool.not_false, Bool.and_self, Bool.true_and, List.any_eq_true, not_exists,
    not_and] at this
  have := this e.2 (FidMap.mem_values.mpr ⟨e, he, rfl⟩)
  simpa [hne, hx] using this

theorem prepare_ok {t : FeatureTable} {r r' : Record} (h : t.prepare r = .ok r') :
    r'.fid = r.fid ∧ r'.Meets t.schema ∧
      ∀ e ∈ t.records.entries, e.2.fid ≠ r.fid → e.2.Differ t.schema r' := by
  unfold prepare at h
  split at h
  · cases h
  · rename_i hl
    obtain ⟨hd, hg⟩ := not_or.mp hl
    have hd : r.data.length = t.schema.fields.length := of_not_not hd
    have hg : r.geometries.length = t.schema.geometryFields.length := of_not_not hg
    simp only at h
    split at h
    · cases h
    · cases h
    · rename_i hm hu
      cases h
      have hlen : (List.zipWith fill t.schema.fields r.data).length = t.schema.fields.length := by
        simp [hd]
      refine ⟨rfl, ⟨fun i f hf hn => ?_, fun i g hf hn => ?_, fun i f hf _ => ?_⟩, fun e he hne => ?_⟩
      · exact present_of_missingField?_eq_none hm hlen hf hn
      · exact shaped_of_missingField?_eq_none hm hg hf hn
      · obtain ⟨hi, -⟩ := List.getElem?_eq_some_iff.mp hf
        exact hlen.symm ▸ hi
      · exact differ_of_duplicateField?_eq_none hu he hne

/-! ### Changes keep the constraints -/

theorem sound_make (name : String) (schema : Schema) : (make name schema).Sound where
  keyed _ he := by simp [make] at he
  named _ he := by simp [make] at he
  bounded _ he := by simp [make] at he
  next_pos := Int.le_refl 1
  next_le := by simp [make, maxFid]
  meets _ he := by simp [make] at he
  differ _ he := by simp [make] at he

theorem counted_make (name : String) (schema : Schema) : (make name schema).Counted := by
  simp [Counted, make]

theorem Sound.congr {t t' : FeatureTable} (h : t.Sound) (hs : t'.schema = t.schema)
    (hr : t'.records = t.records) (hn : t'.nextFid = t.nextFid) : t'.Sound := by
  obtain ⟨h₁, h₂, h₃, h₄, h₅, h₆, h₇⟩ := h
  constructor
  all_goals
    simp only [hs, hr, hn]
    assumption

theorem Sound.put {t : FeatureTable} {r : Record} {fid : Int} (h : t.Sound)
    (hne : fid ≠ Record.missingFid) (hb : fid < maxFid) (hm : r.Meets t.schema)
    (hd : ∀ e ∈ t.records.entries, e.1 ≠ fid → e.2.Differ t.schema r) : (t.put fid r).Sound where
  keyed e he := by
    rcases FidMap.mem_insert.mp he with rfl | ⟨he, -⟩
    · rfl
    · exact h.keyed e he
  named e he := by
    rcases FidMap.mem_insert.mp he with rfl | ⟨he, -⟩
    · exact hne
    · exact h.named e he
  bounded e he := by
    rcases FidMap.mem_insert.mp he with rfl | ⟨he, -⟩
    · exact hb
    · exact h.bounded e he
  next_pos := h.next_pos
  next_le := h.next_le
  meets e he := by
    rcases FidMap.mem_insert.mp he with rfl | ⟨he, -⟩
    · exact ⟨hm.present, hm.shaped, hm.reached⟩
    · exact h.meets e he
  differ a ha b hb hab := by
    rcases FidMap.mem_insert.mp ha with rfl | ⟨ha, hak⟩ <;>
      rcases FidMap.mem_insert.mp hb with rfl | ⟨hb, hbk⟩
    · exact absurd rfl hab
    · exact (hd b hb hbk).symm
    · exact hd a ha hak
    · exact h.differ a ha b hb hab

theorem Sound.count {t : FeatureTable} {n : Int} (h : t.Sound) (hp : 1 ≤ n) (hl : n ≤ maxFid) :
    { t with nextFid := n }.Sound :=
  ⟨h.keyed, h.named, h.bounded, hp, hl, h.meets, h.differ⟩

theorem Sound.select {t : FeatureTable} {m : FidMap Record} (h : t.Sound)
    (hm : ∀ e ∈ m.entries, e ∈ t.records.entries) : { t with records := m }.Sound where
  keyed e he := h.keyed e (hm e he)
  named e he := h.named e (hm e he)
  bounded e he := h.bounded e (hm e he)
  next_pos := h.next_pos
  next_le := h.next_le
  meets e he := h.meets e (hm e he)
  differ a ha b hb := h.differ a (hm a ha) b (hm b hb)

theorem insert_ok {t t' : FeatureTable} {r : Record} {fid : Int} (h : t.insert r = .ok (fid, t')) :
    ∃ r', t.prepare r = .ok r' ∧ fid = r.given?.getD t.nextFid ∧
      (r.given?.isSome → t.records.contains fid = false) ∧ fid < maxFid ∧
      t' = { t.put fid r' with nextFid := max t.nextFid (fid + 1) } := by
  unfold insert at h
  cases hp : t.prepare r with
  | error e => simp [hp, bind, Except.bind] at h
  | ok r' =>
    have hg : r'.given? = r.given? := by rw [Record.given?, (prepare_ok hp).1, Record.given?]
    simp only [hp, bind, Except.bind, hg] at h
    split at h
    · cases h
    · rename_i hc
      split at h
      · cases h
      · rename_i hm
        cases h
        refine ⟨r', rfl, rfl, fun hs => ?_, by omega, rfl⟩
        simpa [hs] using hc

theorem replace_ok {t t' : FeatureTable} {r : Record} {fid : Int}
    (h : t.replace r = .ok (fid, t')) :
    ∃ r', t.prepare r = .ok r' ∧ fid = r.fid.getD Record.missingFid ∧
      t.records.contains fid = true ∧ t' = t.put fid r' := by
  unfold replace at h
  simp only at h
  split at h
  · rename_i hc
    cases hp : t.prepare r with
    | error e => simp [hp, bind, Except.bind] at h
    | ok r' =>
      simp only [hp, bind, Except.bind] at h
      cases h
      exact ⟨r', rfl, rfl, hc, rfl⟩
  · cases h

theorem delete_ok {t t' : FeatureTable} {k fid : Int} (h : t.delete k = .ok (fid, t')) :
    fid = k ∧ t.records.contains k = true ∧ t' = { t with records := t.records.erase k } := by
  unfold delete at h
  split at h
  · rename_i hc
    cases h
    exact ⟨rfl, hc, rfl⟩
  · cases h

theorem holding_of_insert {t t' : FeatureTable} {r : Record} {fid : Int}
    (h : t.insert r = .ok (fid, t')) : ∃ m n, t' = t.holding m n := by
  obtain ⟨r', -, -, -, -, rfl⟩ := insert_ok h
  exact ⟨_, _, rfl⟩

theorem holding_of_replace {t t' : FeatureTable} {r : Record} {fid : Int}
    (h : t.replace r = .ok (fid, t')) : ∃ m n, t' = t.holding m n := by
  obtain ⟨r', -, -, -, rfl⟩ := replace_ok h
  exact ⟨_, t.nextFid, rfl⟩

theorem holding_of_upsert {t t' : FeatureTable} {r : Record} {fid : Int}
    (h : t.upsert r = .ok (fid, t')) : ∃ m n, t' = t.holding m n := by
  unfold upsert at h
  split at h
  · exact holding_of_replace h
  · exact holding_of_insert h

theorem holding_of_delete {t t' : FeatureTable} {k fid : Int} (h : t.delete k = .ok (fid, t')) :
    ∃ m n, t' = t.holding m n := by
  obtain ⟨-, -, rfl⟩ := delete_ok h
  exact ⟨_, t.nextFid, rfl⟩

theorem Sound.insert {t t' : FeatureTable} {r : Record} {fid : Int} (hs : t.Sound)
    (h : t.insert r = .ok (fid, t')) : t'.Sound := by
  obtain ⟨r', hp, rfl, hc, hm, rfl⟩ := insert_ok h
  obtain ⟨-, hmeets, hdiff⟩ := prepare_ok hp
  have hpos := hs.next_pos
  have hle := hs.next_le
  have hne : r.given?.getD t.nextFid ≠ Record.missingFid := by
    cases hg : r.given? with
    | none => simp only [Option.getD_none, Record.missingFid]; omega
    | some n =>
      obtain ⟨k, -, hk⟩ := Option.bind_eq_some_iff.mp hg
      simp only [Record.fidOf] at hk
      split at hk
      · cases hk
      · cases hk
        assumption
  -- a record that shares the given identifier would be stored under it
  have hother : ∀ e ∈ t.records.entries, e.1 ≠ r.given?.getD t.nextFid → e.2.fid ≠ r.fid := by
    intro e he hek heq
    rw [hs.keyed e he] at heq
    have hg : r.given? = some e.1 := by simp [Record.given?, ← heq, Record.fidOf, hs.named e he]
    exact hek (by simp [hg])
  refine (hs.put hne hm hmeets fun e he hek => hdiff e he (hother e he hek)).count ?_ ?_ <;> omega

theorem Sound.replace {t t' : FeatureTable} {r : Record} {fid : Int} (hs : t.Sound)
    (h : t.replace r = .ok (fid, t')) : t'.Sound := by
  obtain ⟨r', hp, hf, hc, rfl⟩ := replace_ok h
  obtain ⟨-, hmeets, hdiff⟩ := prepare_ok hp
  obtain ⟨x, hx, rfl⟩ := FidMap.contains_iff.mp hc
  refine hs.put (hs.named x hx) (hs.bounded x hx) hmeets fun e he hek => hdiff e he fun heq => ?_
  rw [hs.keyed e he] at heq
  exact hek (by simp [hf, ← heq])

theorem Sound.relax {t t' : FeatureTable} (h : t.Sound) (hs : t'.schema.Relaxes t.schema)
    (hr : t'.records = t.records) (hn : t'.nextFid = t.nextFid) : t'.Sound where
  keyed := hr ▸ h.keyed
  named := hr ▸ h.named
  bounded := hr ▸ h.bounded
  next_pos := hn ▸ h.next_pos
  next_le := hn ▸ h.next_le
  meets e he := (h.meets e (hr ▸ he)).relax hs
  differ a ha b hb hab := (h.differ a (hr ▸ ha) b (hr ▸ hb) hab).relax hs

theorem Change.relaxes {t t' : FeatureTable} (h : t.Change t') : t'.schema.Relaxes t.schema := by
  cases h with
  | relabel hs => exact hs ▸ .refl _
  | insert h =>
    obtain ⟨r', -, -, -, -, rfl⟩ := insert_ok h
    exact .refl _
  | replace h =>
    obtain ⟨r', -, -, -, rfl⟩ := replace_ok h
    exact .refl _
  | delete h =>
    obtain ⟨-, -, rfl⟩ := delete_ok h
    exact .refl _
  | define kind o input method => exact Overlay.prepare_relaxes kind o input method t

theorem Change.sound {t t' : FeatureTable} (h : t.Change t') (hs : t.Sound) : t'.Sound := by
  cases h with
  | relabel hd hr hn => exact hs.congr hd hr hn
  | insert h => exact hs.insert h
  | replace h => exact hs.replace h
  | delete h =>
    obtain ⟨-, -, rfl⟩ := delete_ok h
    exact hs.select fun e he => (FidMap.mem_erase.mp he).1
  | define kind o input method => exact hs.relax (Overlay.prepare_relaxes kind o input method t) rfl rfl

theorem Change.counted {t t' : FeatureTable} (h : t.Change t') (hc : t.Counted) : t'.Counted := by
  cases h with
  | relabel hs hr hn =>
    intro e he
    rw [hn]
    exact hc e (hr ▸ he)
  | insert h =>
    obtain ⟨r', -, -, -, -, rfl⟩ := insert_ok h
    intro e he
    rcases FidMap.mem_insert.mp he with rfl | ⟨he, -⟩
    · simp only
      omega
    · have := hc e he
      simp only
      omega
  | replace h =>
    obtain ⟨r', -, -, hin, rfl⟩ := replace_ok h
    obtain ⟨x, hx, rfl⟩ := FidMap.contains_iff.mp hin
    intro e he
    rcases FidMap.mem_insert.mp he with rfl | ⟨he, -⟩
    · exact hc x hx
    · exact hc e he
  | delete h =>
    obtain ⟨-, -, rfl⟩ := delete_ok h
    exact fun e he => hc e (FidMap.mem_erase.mp he).1
  | define => exact hc

/-- Contents that fitted the table before it changed still do. -/
theorem Change.holding {t t' : FeatureTable} (h : t.Change t') {m : FidMap Record} {n : Int}
    (hs : (t.holding m n).Sound) : (t'.holding m n).Sound := hs.relax h.relaxes rfl rfl

theorem Changes.sound {t t' : FeatureTable} (h : t.Changes t') (hs : t.Sound) : t'.Sound := by
  induction h with
  | refl => exact hs
  | tail _ h ih => exact h.sound ih

theorem Changes.counted {t t' : FeatureTable} (h : t.Changes t') (hc : t.Counted) : t'.Counted := by
  induction h with
  | refl => exact hc
  | tail _ h ih => exact h.counted ih

theorem Changes.holding {t t' : FeatureTable} (h : t.Changes t') {m : FidMap Record} {n : Int}
    (hs : (t.holding m n).Sound) : (t'.holding m n).Sound := by
  induction h with
  | refl => exact hs
  | tail _ h ih => exact h.holding ih

theorem Counted.not_contains {t t' : FeatureTable} {r : Record} {fid : Int} (hc : t.Counted)
    (hg : r.given? = none) (h : t.insert r = .ok (fid, t')) : t.records.contains fid = false := by
  obtain ⟨r', -, rfl, -⟩ := insert_ok h
  rw [hg, Option.getD_none, Bool.eq_false_iff]
  intro hin
  obtain ⟨x, hx, hk⟩ := FidMap.contains_iff.mp hin
  have := hc x hx
  omega

end FeatureTable

end FeatureLayer
