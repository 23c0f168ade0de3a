import Mathlib.Data.List.Basic
import FeatureLayer.Proofs.Row.Typing

namespace FeatureLayer

/-! ### Data -/

theorem Value.ofDatum_of_isAbsent {d : Datum} (h : d.isAbsent = true) (kind : FieldKind)
    (subkind : Subkind) : ofDatum kind subkind d = absent kind := if_pos h

/-- What a field makes of a datum that is read and stored again. -/
structure Field.Restores (f : Field) (d d' : Datum) : Prop where
  stated : d' ≠ .unset
  isAbsent : d'.isAbsent = d.isAbsent
  reads : Value.ofDatum f.kind f.subkind d' = Value.ofDatum f.kind f.subkind d
  same : f.subkind ≠ .boolean → d.isAbsent = false → d' = d

namespace Field

theorem items_map_some {α : Type} (expected : String) (make : List α → Datum) (l : List α) :
    items expected make (l.map some) = .ok (make l) := by
  unfold items
  cases l <;> simp [Function.comp_def]

theorem store_absent (f : Field) : f.store (Value.absent f.kind) = .ok .null := by
  unfold store
  cases hk : f.kind <;> rfl

theorem restores_of_stores {f : Field} {d : Datum} (h : f.kind.Stores d) (ht : f.kind ≠ .time)
    (hdt : f.kind ≠ .dateTime) :
    ∃ d', f.store (Value.ofDatum f.kind f.subkind d) = .ok d' ∧ f.Restores d d' := by
  by_cases ha : d.isAbsent = true
  · refine ⟨.null, ?_, nofun, ha.symm, ?_, fun _ hp => ?_⟩
    · rw [Value.ofDatum_of_isAbsent ha, store_absent]
    · rw [Value.ofDatum_of_isAbsent ha, Value.ofDatum_of_isAbsent rfl]
    · rw [ha] at hp
      cases hp
  unfold store
  generalize hk : f.kind = kind at h ht hdt
  cases h with
  | unset | null => exact absurd rfl ha
  | time | dateTime => contradiction
  | integer v =>
    -- of a truth value only whether it is zero comes back
    by_cases hs : f.subkind = .boolean
    · have hread : ∀ n, Value.ofDatum .integer f.subkind (.integer n) = .boolean (n ≠ 0) :=
        fun n => if_pos hs
      refine ⟨.integer (if v ≠ 0 then 1 else 0), ?_, nofun, rfl, ?_, fun hn => absurd hs hn⟩
      · rw [hread]
        by_cases hv : v = 0 <;> simp [hv]
      · rw [hk, hread, hread]
        by_cases hv : v = 0 <;> simp [hv]
    · have hread : Value.ofDatum .integer f.subkind (.integer v) = .integer v := if_neg hs
      refine ⟨.integer v, ?_, nofun, rfl, rfl, fun _ _ => rfl⟩
      rw [hread]
  | integers v =>
    let g (n : Int) : Int := if f.subkind = .boolean ∧ n ≠ 0 then 1 else n
    have hg : ∀ n, g (g n) = g n := by
      intro n
      by_cases hn : f.subkind = .boolean ∧ n ≠ 0 <;> simp [g, hn]
    have hread : ∀ l, Value.ofDatum .integers f.subkind (.integers l) =
        .integers ((l.map g).map some) := by
      intro l
      rw [List.map_map]
      rfl
    refine ⟨.integers (v.map g), ?_, nofun, rfl, ?_, fun hs _ => ?_⟩
    · rw [hread]
      exact items_map_some _ _ _
    · have hgg : (v.map g).map g = v.map g := List.map_map.trans (List.map_congr_left fun n _ => hg n)
      rw [hk, hread, hread, hgg]
    · simp [g, hs]
  | @date n day hd =>
    refine ⟨.date (.ofDate day), ?_, nofun, rfl, rfl, fun _ _ => rfl⟩
    rw [Value.ofDatum_ofDate hd]
    simp only [Value.toDate?_date hd]
  | integers64 v => exact ⟨.integers64 v, items_map_some _ _ v, nofun, rfl, rfl, fun _ _ => rfl⟩
  | reals v => exact ⟨.reals v, items_map_some _ _ v, nofun, rfl, rfl, fun _ _ => rfl⟩
  | texts v => exact ⟨.texts v, items_map_some _ _ v, nofun, rfl, rfl, fun _ _ => rfl⟩
  | integer64 v => exact ⟨.integer64 v, rfl, nofun, rfl, rfl, fun _ _ => rfl⟩
  | real v => exact ⟨.real v, rfl, nofun, rfl, rfl, fun _ _ => rfl⟩
  | text v => exact ⟨.text v, rfl, nofun, rfl, rfl, fun _ _ => rfl⟩
  | binary v => exact ⟨.binary v, rfl, nofun, rfl, rfl, fun _ _ => rfl⟩

end Field

theorem RowTarget.restores_of_encodeAttribute {f : Field} {d : Datum} (h : f.kind.Stores d)
    (ht : f.kind ≠ .time) (hdt : f.kind ≠ .dateTime) (hn : d.isAbsent = true → f.nullable = true) :
    ∃ d', encodeAttribute f (Value.ofDatum f.kind f.subkind d) = .ok d' ∧ f.Restores d d' := by
  obtain ⟨d', hstore, hd'⟩ := Field.restores_of_stores h ht hdt
  refine ⟨d', ?_, hd'⟩
  have htaken : ((Value.ofDatum f.kind f.subkind d).isNull && !f.nullable) = false := by
    cases hnull : (Value.ofDatum f.kind f.subkind d).isNull with
    | false => rfl
    | true =>
      -- only null is stored as null, and it is read only where nothing is
      have hv : Value.ofDatum f.kind f.subkind d = .null := by
        cases hv : Value.ofDatum f.kind f.subkind d <;> rw [hv] at hnull <;> first | rfl | cases hnull
      have hd : d.isAbsent = true := by
        rw [hv, Field.store_null] at hstore
        rw [← hd'.isAbsent, ← Except.ok.inj hstore]
        rfl
      simp [hn hd]
  rw [encodeAttribute, htaken, hstore]
  rfl

/-! ### Geometries -/

namespace ReadOptions

/-- Geometries are read in full: in a written form, and single ones as they are. -/
structure ReadsGeometries (o : ReadOptions) : Prop where
  single : o.promoteToMulti = false
  written : o.geometryFormat ∈ [.wkb, .wkbIso, .wkt, .wktIso]

def ReadsBack (o : ReadOptions) (g : Geometry) : Prop :=
  match o.geometryFormat with
  | .wkb | .wkbIso => Geometry.ofWkb? (g.toWkb o.byteOrder) = some g
  | .wkt | .wktIso => Geometry.ofWkt? g.toWkt = some g
  | _ => True

end ReadOptions

theorem Wkb.bytes_ne_nil (order : ByteOrder) (g : Geometry) : Wkb.bytes order g ≠ [] := by
  cases g <;> simp [bytes, header]

theorem Text.isBlank_append {a : String} (h : isBlank a = false) (b : String) :
    isBlank (a ++ b) = false := by
  rw [isBlank, String.toList_append, List.all_append]
  exact Bool.and_eq_false_imp.mpr fun ha => absurd ha (by rw [← isBlank, h]; decide)

theorem Wkt.isBlank_text (g : Geometry) : Text.isBlank (Wkt.text g) = false := by
  cases g <;> exact Text.isBlank_append (by decide) _

theorem GeometryCodec.ofValue_toValue {o : ReadOptions} {g : Geometry} (ho : o.ReadsGeometries)
    (hg : o.ReadsBack g) (field : String) :
    ∃ v, plain.toValue o (some g) = .ok v ∧ plain.ofValue field v = .ok (some g) := by
  obtain ⟨hsingle, hwritten⟩ := ho
  have hwkb : Geometry.ofWkb? (g.toWkb o.byteOrder) = some g →
      plain.ofValue field (.geometry (.wkb (g.toWkb o.byteOrder))) = .ok (some g) := by
    intro h
    have hne : (g.toWkb o.byteOrder).isEmpty = false := by
      exact List.isEmpty_eq_false_iff.mpr (Wkb.bytes_ne_nil o.byteOrder g)
    simp only [ofValue, wkbOrNone, hne, plain, h]
    rfl
  have hwkt : Geometry.ofWkt? g.toWkt = some g →
      plain.ofValue field (.geometry (.wkt g.toWkt)) = .ok (some g) := by
    intro h
    have hne : Text.isBlank g.toWkt = false := Wkt.isBlank_text g
    simp only [ofValue, wktOrNone, hne, plain, h]
    rfl
  unfold ReadOptions.ReadsBack at hg
  unfold toValue
  rw [hsingle]
  cases hf : o.geometryFormat <;> rw [hf] at hwritten hg
  case wkb | wkbIso => exact ⟨_, rfl, hwkb hg⟩
  case wkt | wktIso => exact ⟨_, rfl, hwkt hg⟩
  all_goals simp at hwritten

/-! ### Rows -/

namespace Row

theorem assign_of_notMem {name : String} {es : List (String × Value)} (v : Value)
    (h : name ∉ es.map (·.1)) : assign name v es = es ++ [(name, v)] := by
  induction es with
  | nil => rfl
  | cons e es ih =>
    rw [List.map_cons, List.mem_cons, not_or] at h
    rw [assign, if_neg (Ne.symm h.1), ih h.2]
    rfl

theorem foldl_set_entries {es : List (String × Value)} (r : Row)
    (h : ((r.entries ++ es).map (·.1)).Nodup) :
    (es.foldl (fun r e => r.set e.1 e.2) r).entries = r.entries ++ es := by
  induction es generalizing r with
  | nil => exact (List.append_nil _).symm
  | cons e es ih =>
    have hset : (r.set e.1 e.2).entries = r.entries ++ [e] := by
      refine assign_of_notMem e.2 fun hmem => ?_
      rw [List.map_append, List.nodup_append] at h
      exact h.2.2 _ hmem _ List.mem_cons_self rfl
    rw [List.foldl_cons, ih _ (by rwa [hset, List.append_assoc, List.singleton_append]), hset,
      List.append_assoc, List.singleton_append]

theorem entries_ofList {es : List (String × Value)} (h : (es.map (·.1)).Nodup) :
    (ofList es).entries = es := foldl_set_entries empty h

end Row

theorem List.findIdx?_eq_of_nodup {α β : Type} [DecidableEq β] {xs : List α} {g : α → β} {i : Nat}
    {x : α} (h : (xs.map g).Nodup) (hx : xs[i]? = some x) : xs.findIdx? (g · = g x) = some i := by
  obtain ⟨hi, rfl⟩ := List.getElem?_eq_some_iff.mp hx
  rw [List.findIdx?_eq_some_iff_getElem]
  refine ⟨hi, by simp, fun j hj => ?_⟩
  have := List.pairwise_iff_getElem.mp h j i (by simp; omega) (by simpa) hj
  simpa using this

namespace RowTarget

structure Distinct (t : RowTarget) : Prop where
  nodup : (Row.fidName :: t.schema.names t.unnamedGeometry).Nodup
  fidColumn : t.fidColumn = "" ∨ t.fidColumn ∉ t.schema.names t.unnamedGeometry

variable {t : RowTarget} {codec : GeometryCodec} {i : Nat}

theorem Distinct.ne_fid (h : t.Distinct) {name : String}
    (hn : name ∈ t.schema.names t.unnamedGeometry) :
    (name = Row.fidName || (!t.fidColumn.isEmpty && name = t.fidColumn)) = false := by
  have hfid : name ≠ Row.fidName := fun he => (List.nodup_cons.mp h.nodup).1 (he ▸ hn)
  rcases h.fidColumn with hc | hc
  · simp [hfid, hc]
  · have : name ≠ t.fidColumn := fun he => hc (he ▸ hn)
    simp [hfid, this]

theorem Distinct.place?_field (h : t.Distinct) {f : Field} (hf : t.schema.fields[i]? = some f) :
    t.place? f.name = some (.attribute i) := by
  have hn : f.name ∈ t.schema.names t.unnamedGeometry :=
    List.mem_append_left _ (List.mem_map_of_mem (List.mem_of_getElem? hf))
  have hnodup := (List.nodup_append.mp (List.nodup_cons.mp h.nodup).2).1
  have hindex : t.schema.fieldIndex? f.name = some i := List.findIdx?_eq_of_nodup hnodup hf
  rw [place?, h.ne_fid hn, hindex]
  rfl

theorem Distinct.place?_geometry (h : t.Distinct) {g : GeometryField}
    (hg : t.schema.geometryFields[i]? = some g) :
    t.place? (g.displayName t.unnamedGeometry) = some (.geometry i) := by
  have hmem : g.displayName t.unnamedGeometry ∈
      t.schema.geometryFields.map (·.displayName t.unnamedGeometry) :=
    List.mem_map_of_mem (List.mem_of_getElem? hg)
  obtain ⟨-, hnodup, hapart⟩ := List.nodup_append.mp (List.nodup_cons.mp h.nodup).2
  have hindex : t.schema.geometryIndex? (g.displayName t.unnamedGeometry) t.unnamedGeometry =
      some i := List.findIdx?_eq_of_nodup hnodup hg
  have hnone : t.schema.fieldIndex? (g.displayName t.unnamedGeometry) = none := by
    rw [Schema.fieldIndex?, List.findIdx?_eq_none_iff]
    intro f hf
    have := hapart f.name (List.mem_map_of_mem hf) _ hmem
    simpa using this
  rw [place?, h.ne_fid (List.mem_append_right _ hmem), hindex, hnone]
  rfl

theorem encodeEntry_of_puts {r r' : Record} {e : String × Value} (h : t.Puts codec r e r') :
    t.encodeEntry codec r e = .ok r' := by
  cases h with
  | fid hp hv =>
    simp only [encodeEntry, hp, hv]
    rfl
  | datum hp hf hv =>
    simp only [encodeEntry, hp, hf, hv]
    rfl
  | geometry hp hg hv =>
    simp only [encodeEntry, hp, hg, hv]
    rfl

theorem encode_ok {row : Row} (h : ∀ e ∈ row.entries, ∀ r, ∃ r', t.Puts codec r e r') :
    ∃ r, t.encode codec row = .ok r := by
  unfold encode
  generalize Record.blank t.schema.fields.length t.schema.geometryFields.length = r
  generalize row.entries = es at h
  induction es generalizing r with
  | nil => exact ⟨r, rfl⟩
  | cons e es ih =>
    obtain ⟨r', hr'⟩ := h e List.mem_cons_self r
    rw [List.foldlM_cons, encodeEntry_of_puts hr']
    exact ih r' fun e he => h e (List.mem_cons_of_mem _ he)

/-- What the only entry for a place leaves in any record is in the record of the row, if entries for
other places keep it. -/
theorem encode_of_only {row : Row} {r : Record} {e : String × Value} {p : Place} {Q : Record → Prop}
    (h : t.encode codec row = .ok r) (he : e ∈ row.entries) (hp : t.place? e.1 = some p)
    (honly : ∀ e' ∈ row.entries, t.place? e'.1 = some p → e' = e)
    (hit : ∀ r r' : Record, r.data.length = t.schema.fields.length ∧
      r.geometries.length = t.schema.geometryFields.length → t.Puts codec r e r' → Q r')
    (miss : ∀ r e' r', Q r → t.Puts codec r e' r' → t.place? e'.1 ≠ some p → Q r') : Q r := by
  -- besides `Q` the shape of the record is carried along, for the entry to find its place
  refine (encode_induction (P := fun es r => (r.data.length = t.schema.fields.length ∧
    r.geometries.length = t.schema.geometryFields.length) ∧
      ((∀ e' ∈ es, t.place? e'.1 = some p → e' = e) → e ∈ es → Q r)) h ?_ ?_).2 honly he
  · exact ⟨by simp [Record.blank], fun _ he => absurd he List.not_mem_nil⟩
  intro es x r r' hr hput
  obtain ⟨hshape, ih⟩ := hr
  refine ⟨by cases hput <;> simpa using hshape, fun honly he => ?_⟩
  by_cases hx : t.place? x.1 = some p
  · obtain rfl := honly x (by simp) hx
    exact hit r r' hshape hput
  · refine miss r x r' (ih (fun e' he' => honly e' (List.mem_append_left _ he')) ?_) hput hx
    rcases List.mem_append.mp he with he | he
    · exact he
    · exact absurd (List.mem_singleton.mp he ▸ hp) hx

theorem data_of_encode {row : Row} {r : Record} {e : String × Value} {f : Field}
    (h : t.encode codec row = .ok r) (he : e ∈ row.entries)
    (hp : t.place? e.1 = some (.attribute i))
    (honly : ∀ e' ∈ row.entries, t.place? e'.1 = some (.attribute i) → e' = e)
    (hf : t.schema.fields[i]? = some f) :
    ∃ d, encodeAttribute f e.2 = .ok d ∧ r.data[i]? = some d := by
  obtain ⟨hi, -⟩ := List.getElem?_eq_some_iff.mp hf
  refine encode_of_only
    (Q := fun r => ∃ d, encodeAttribute f e.2 = .ok d ∧ r.data[i]? = some d) h he hp honly
    (fun r r' hshape hput => ?_) fun r x r' hr hput hx => ?_
  · cases hput with
    | fid hp' | geometry hp' => cases hp.symm.trans hp'
    | datum hp' hg hv =>
      cases hp.symm.trans hp'
      obtain rfl := Option.some.inj (hf.symm.trans hg)
      exact ⟨_, hv, List.getElem?_set_self (by omega)⟩
  · cases hput with
    | fid | geometry => exact hr
    | @datum j _ _ hp' =>
      rw [List.getElem?_set_ne fun (hj : j = i) => hx (hj ▸ hp')]
      exact hr

theorem geometry_of_encode {row : Row} {r : Record} {e : String × Value} {g : GeometryField}
    (h : t.encode codec row = .ok r) (he : e ∈ row.entries)
    (hp : t.place? e.1 = some (.geometry i))
    (honly : ∀ e' ∈ row.entries, t.place? e'.1 = some (.geometry i) → e' = e)
    (hg : t.schema.geometryFields[i]? = some g) :
    ∃ x, encodeGeometry codec g e.1 e.2 = .ok x ∧ r.geometries[i]? = some x := by
  obtain ⟨hi, -⟩ := List.getElem?_eq_some_iff.mp hg
  refine encode_of_only
    (Q := fun r => ∃ x, encodeGeometry codec g e.1 e.2 = .ok x ∧ r.geometries[i]? = some x) h he hp
    honly (fun r r' hshape hput => ?_) fun r x r' hr hput hx => ?_
  · cases hput with
    | fid hp' | datum hp' => cases hp.symm.trans hp'
    | geometry hp' hf hv =>
      cases hp.symm.trans hp'
      obtain rfl := Option.some.inj (hg.symm.trans hf)
      exact ⟨_, hv, List.getElem?_set_self (by omega)⟩
  · cases hput with
    | fid | datum => exact hr
    | @geometry j _ _ hp' =>
      rw [List.getElem?_set_ne fun (hj : j = i) => hx (hj ▸ hp')]
      exact hr

end RowTarget

/-! ### Records -/

structure Schema.Unignored (s : Schema) : Prop where
  fields : ∀ f ∈ s.fields, f.ignored = false
  geometryFields : ∀ g ∈ s.geometryFields, g.ignored = false

/-- What a record of the schema becomes when its row is encoded. -/
structure Record.Restored (s : Schema) (r r' : Record) : Prop where
  fid : r'.fid = r.fid
  length_data : r'.data.length = r.data.length
  data : ∀ (i : Nat) (f : Field) (d : Datum), s.fields[i]? = some f → r.data[i]? = some d →
    ∃ d', r'.data[i]? = some d' ∧ f.Restores d d'
  geometries : r'.geometries = r.geometries

def ColumnSource.place : ColumnSource → RowTarget.Place
  | .fid => .fid
  | .attribute i _ _ => .attribute i
  | .geometry i => .geometry i

namespace ReadPlan

variable {s : Schema} {options : ReadOptions} {codec : GeometryCodec} {r : Record} {row : Row}

theorem columns_make (hs : s.Unignored) (ho : options.geometryFormat ≠ .none) :
    (make s .none options).columns = (Row.fidName, .fid) ::
      (s.fields.zipIdx.map (fun e => (e.1.name, .attribute e.2 e.1.kind e.1.subkind)) ++
        s.geometryFields.zipIdx.map fun e =>
          (e.1.displayName options.unnamedGeometry, .geometry e.2)) := by
  have hfields : attributeColumns s .none =
      s.fields.zipIdx.map fun e => (e.1.name, .attribute e.2 e.1.kind e.1.subkind) := by
    rw [attributeColumns, ← List.filterMap_eq_map]
    refine List.filterMap_congr fun e he => ?_
    simp [hs.fields e.1 (List.fst_mem_of_mem_zipIdx he), IgnoredFields.none]
  have hgeometries : geometryColumns s .none options.unnamedGeometry =
      s.geometryFields.zipIdx.map fun e =>
        (e.1.displayName options.unnamedGeometry, .geometry e.2) := by
    rw [geometryColumns, ← List.filterMap_eq_map]
    refine List.filterMap_congr fun e he => ?_
    simp [hs.geometryFields e.1 (List.fst_mem_of_mem_zipIdx he), IgnoredFields.none]
  rw [make, if_neg ho, hfields, hgeometries]
  rfl

theorem map_fst_zipIdx {α β : Type} (xs : List α) (g : α → β) :
    xs.zipIdx.map (fun e => g e.1) = xs.map g :=
  List.map_map.symm.trans (congrArg (List.map g) (List.zipIdx_map_fst 0 xs))

theorem names_make (hs : s.Unignored) (ho : options.geometryFormat ≠ .none) :
    (make s .none options).names = Row.fidName :: s.names options.unnamedGeometry := by
  rw [names, columns_make hs ho, List.map_cons, List.map_append, List.map_map, List.map_map,
    Schema.names]
  congr 2
  · exact map_fst_zipIdx s.fields (·.name)
  · exact map_fst_zipIdx s.geometryFields (·.displayName options.unnamedGeometry)

theorem mem_columns_make (hs : s.Unignored) (ho : options.geometryFormat ≠ .none)
    {c : String × ColumnSource} : c ∈ (make s .none options).columns ↔ c = (Row.fidName, .fid) ∨
      (∃ (i : Nat) (f : Field), s.fields[i]? = some f ∧
        c = (f.name, .attribute i f.kind f.subkind)) ∨
      ∃ (i : Nat) (g : GeometryField), s.geometryFields[i]? = some g ∧
        c = (g.displayName options.unnamedGeometry, .geometry i) := by
  rw [columns_make hs ho, List.mem_cons, List.mem_append, List.mem_map, List.mem_map]
  constructor
  · rintro (h | ⟨e, he, rfl⟩ | ⟨e, he, rfl⟩)
    · exact .inl h
    · exact .inr (.inl ⟨e.2, e.1, List.mem_zipIdx_iff_getElem?.mp he, rfl⟩)
    · exact .inr (.inr ⟨e.2, e.1, List.mem_zipIdx_iff_getElem?.mp he, rfl⟩)
  · rintro (h | ⟨i, f, hf, rfl⟩ | ⟨i, g, hg, rfl⟩)
    · exact .inl h
    · exact .inr (.inl ⟨(f, i), List.mem_zipIdx_iff_getElem?.mpr hf, rfl⟩)
    · exact .inr (.inr ⟨(g, i), List.mem_zipIdx_iff_getElem?.mpr hg, rfl⟩)

theorem entries_of_decodeRow {p : ReadPlan} (hn : p.names.Nodup)
    (h : p.decodeRow codec options r = .ok row) :
    row.entries = p.columns.map (fun c => (c.1, cell codec options r c.2)) ∧
      ∀ c ∈ p.columns, valueAt codec options r c.2 = .ok (cell codec options r c.2) := by
  obtain ⟨vs, hvs, rfl⟩ := ok_of_map_eq_ok h
  have hcells := eq_cells_of_decode_eq_ok hvs
  have hzip : p.names.zip vs = p.columns.map fun c => (c.1, cell codec options r c.2) := by
    rw [hcells]
    exact List.zip_map'
  constructor
  · rw [hzip]
    refine Row.entries_ofList ?_
    rw [List.map_map]
    exact hn
  · intro c hc
    obtain ⟨v, hv⟩ := ok_of_mapM_eq_ok hvs c hc
    rw [cell, hv]
    rfl

theorem decode_of_restored {ignored : IgnoredFields} {r' : Record} (h : r.Restored s r')
    (ht : r.Typed s) : (make s ignored options).decode codec options r' =
      (make s ignored options).decode codec options r := by
  refine mapM_congr_left fun c hc => ?_
  rcases source_of_mem_make hc with hsource | ⟨i, f, hf, -, hsource⟩ | ⟨i, g, -, -, hsource⟩
  all_goals rw [hsource, valueAt, valueAt]
  · rw [h.fid]
  · obtain ⟨hi, -⟩ := List.getElem?_eq_some_iff.mp hf
    have hd := List.getElem?_eq_getElem (l := r.data) (by rwa [ht.length_data])
    obtain ⟨d', hd', hread⟩ := h.data i f _ hf hd
    rw [hd, hd', Option.getD_some, Option.getD_some, hread.reads]
  · rw [h.geometries]

end ReadPlan

namespace RowTarget

/-- Rows that are read with these options say all that the target takes, each thing under a name of
its own. -/
structure Rereads (t : RowTarget) (options : ReadOptions) : Prop where
  distinct : t.Distinct
  unnamed : options.unnamedGeometry = t.unnamedGeometry
  unignored : t.schema.Unignored
  geometries : options.ReadsGeometries
  kinds : ∀ f ∈ t.schema.fields, f.kind ≠ .time ∧ f.kind ≠ .dateTime

/-- A record of the schema whose geometries read back. -/
structure Holds (t : RowTarget) (options : ReadOptions) (r : Record) : Prop where
  typed : r.Typed t.schema
  meets : r.Meets t.schema
  readsBack : ∀ g, some g ∈ r.geometries → options.ReadsBack g

section

variable {t : RowTarget} {options : ReadOptions} {r r' : Record} {row : Row} {i : Nat}
  {c : String × ColumnSource}

def entry (options : ReadOptions) (r : Record) (c : String × ColumnSource) : String × Value :=
  (c.1, ReadPlan.cell .plain options r c.2)

theorem Holds.restores {f : Field} {d : Datum} (h : t.Holds options r) (ht : t.Rereads options)
    (hf : t.schema.fields[i]? = some f) (hd : r.data[i]? = some d) :
    ∃ d', encodeAttribute f
      (ReadPlan.cell .plain options r (.attribute i f.kind f.subkind)) = .ok d' ∧ f.Restores d d' := by
  have hcell : ReadPlan.cell .plain options r (.attribute i f.kind f.subkind) =
      Value.ofDatum f.kind f.subkind d := by
    rw [ReadPlan.cell, ReadPlan.valueAt, hd]
    rfl
  obtain ⟨htime, hdateTime⟩ := ht.kinds f (List.mem_of_getElem? hf)
  rw [hcell]
  refine restores_of_encodeAttribute (h.typed.stores i f d hf hd) htime hdateTime fun ha => ?_
  by_contra hn
  obtain ⟨x, hx, hpresent⟩ := h.meets.present i f hf (by simpa using hn)
  rw [hd] at hx
  cases hx
  rw [ha] at hpresent
  cases hpresent

theorem Holds.encodeGeometry {g : GeometryField} {x : Option Geometry} (h : t.Holds options r)
    (ht : t.Rereads options) (hg : t.schema.geometryFields[i]? = some g)
    (hx : r.geometries[i]? = some x) (name : String) :
    encodeGeometry .plain g name (ReadPlan.cell .plain options r (.geometry i)) = .ok x := by
  have hvalue : ReadPlan.valueAt .plain options r (.geometry i) =
      GeometryCodec.plain.toValue options x := by
    rw [ReadPlan.valueAt, hx]
    rfl
  cases x with
  | none =>
    have hn : g.nullable = true := by
      by_contra hn
      obtain ⟨y, hy⟩ := h.meets.shaped i g hg (by simpa using hn)
      rw [hx] at hy
      cases hy
    have hcell : ReadPlan.cell .plain options r (.geometry i) = .null := by
      rw [ReadPlan.cell, hvalue]
      rfl
    simp [hcell, RowTarget.encodeGeometry, GeometryCodec.ofValue, bind, Except.bind, hn]
  | some y =>
    obtain ⟨v, hv, hof⟩ := GeometryCodec.ofValue_toValue ht.geometries
      (h.readsBack y (List.mem_of_getElem? hx)) name
    have hcell : ReadPlan.cell .plain options r (.geometry i) = v := by
      rw [ReadPlan.cell, hvalue, hv]
      rfl
    simp [hcell, RowTarget.encodeGeometry, hof, bind, Except.bind]

theorem encodeFid_cell {k : Int} (options : ReadOptions) (hr : r.fid = some k)
    (hk : k ≠ Record.missingFid) (name : String) :
    encodeFid name (ReadPlan.cell .plain options r .fid) = .ok (some k) := by
  have hcell : ReadPlan.cell .plain options r .fid = .integer64 k := by
    rw [ReadPlan.cell, ReadPlan.valueAt, hr]
    rfl
  rw [hcell]
  exact congrArg Except.ok (if_neg hk)

namespace Rereads

theorem format_ne_none (ht : t.Rereads options) : options.geometryFormat ≠ .none := by
  intro hn
  have := ht.geometries.written
  simp [hn] at this

theorem mem_columns (ht : t.Rereads options) :
    c ∈ (ReadPlan.make t.schema .none options).columns ↔ c = (Row.fidName, .fid) ∨
      (∃ (i : Nat) (f : Field), t.schema.fields[i]? = some f ∧
        c = (f.name, .attribute i f.kind f.subkind)) ∨
      ∃ (i : Nat) (g : GeometryField), t.schema.geometryFields[i]? = some g ∧
        c = (g.displayName options.unnamedGeometry, .geometry i) :=
  ReadPlan.mem_columns_make ht.unignored ht.format_ne_none

theorem place?_column (ht : t.Rereads options)
    (hc : c ∈ (ReadPlan.make t.schema .none options).columns) : t.place? c.1 = some c.2.place := by
  rcases ht.mem_columns.mp hc with rfl | ⟨i, f, hf, rfl⟩ | ⟨i, g, hg, rfl⟩
  · simp [place?, ColumnSource.place]
  · exact ht.distinct.place?_field hf
  · rw [ht.unnamed]
    exact ht.distinct.place?_geometry hg

theorem column_eq (ht : t.Rereads options) {c' : String × ColumnSource}
    (hc : c ∈ (ReadPlan.make t.schema .none options).columns)
    (hc' : c' ∈ (ReadPlan.make t.schema .none options).columns) (h : c'.2.place = c.2.place) :
    c' = c := by
  rcases ht.mem_columns.mp hc with rfl | ⟨i, f, hf, rfl⟩ | ⟨i, g, hg, rfl⟩ <;>
    rcases ht.mem_columns.mp hc' with rfl | ⟨j, f', hf', rfl⟩ | ⟨j, g', hg', rfl⟩ <;>
    cases h
  · rfl
  · obtain rfl := Option.some.inj (hf.symm.trans hf')
    rfl
  · obtain rfl := Option.some.inj (hg.symm.trans hg')
    rfl

theorem entries (ht : t.Rereads options)
    (hrow : (ReadPlan.make t.schema .none options).decodeRow .plain options r = .ok row) :
    row.entries = (ReadPlan.make t.schema .none options).columns.map (entry options r) := by
  have hnames : (ReadPlan.make t.schema .none options).names.Nodup := by
    rw [ReadPlan.names_make ht.unignored ht.format_ne_none, ht.unnamed]
    exact ht.distinct.nodup
  exact (ReadPlan.entries_of_decodeRow hnames hrow).1

theorem entry_mem (ht : t.Rereads options)
    (hrow : (ReadPlan.make t.schema .none options).decodeRow .plain options r = .ok row)
    (hc : c ∈ (ReadPlan.make t.schema .none options).columns) : entry options r c ∈ row.entries := by
  rw [ht.entries hrow]
  exact List.mem_map_of_mem hc

theorem entry_only (ht : t.Rereads options)
    (hrow : (ReadPlan.make t.schema .none options).decodeRow .plain options r = .ok row)
    (hc : c ∈ (ReadPlan.make t.schema .none options).columns) :
    ∀ e ∈ row.entries, t.place? e.1 = some c.2.place → e = entry options r c := by
  intro e he hp
  rw [ht.entries hrow] at he
  obtain ⟨c', hc', rfl⟩ := List.mem_map.mp he
  have hp' : some c'.2.place = some c.2.place := (ht.place?_column hc').symm.trans hp
  rw [ht.column_eq hc hc' (Option.some.inj hp')]

theorem puts {k : Int} (ht : t.Rereads options) (h : t.Holds options r) (hr : r.fid = some k)
    (hk : k ≠ Record.missingFid) (hc : c ∈ (ReadPlan.make t.schema .none options).columns)
    (r₀ : Record) : ∃ r₁, t.Puts .plain r₀ (entry options r c) r₁ := by
  have hp := ht.place?_column hc
  rcases ht.mem_columns.mp hc with rfl | ⟨i, f, hf, rfl⟩ | ⟨i, g, hg, rfl⟩
  · exact ⟨_, .fid hp (encodeFid_cell options hr hk _)⟩
  · obtain ⟨hi, -⟩ := List.getElem?_eq_some_iff.mp hf
    have hd := List.getElem?_eq_getElem (l := r.data) (by rwa [h.typed.length_data])
    obtain ⟨d', hd', -⟩ := h.restores ht hf hd
    exact ⟨_, .datum hp hf hd'⟩
  · obtain ⟨hi, -⟩ := List.getElem?_eq_some_iff.mp hg
    have hx := List.getElem?_eq_getElem (l := r.geometries) (by rwa [h.typed.length_geometries])
    exact ⟨_, .geometry hp hg (h.encodeGeometry ht hg hx _)⟩

theorem fid_eq {k : Int} (ht : t.Rereads options)
    (hrow : (ReadPlan.make t.schema .none options).decodeRow .plain options r = .ok row)
    (hr : r.fid = some k) (hk : k ≠ Record.missingFid) (hr' : t.encode .plain row = .ok r') :
    r'.fid = some k := by
  have hc := ht.mem_columns.mpr (.inl rfl)
  have hp := ht.place?_column hc
  refine encode_of_only (Q := fun r => r.fid = some k) hr' (ht.entry_mem hrow hc) hp
    (ht.entry_only hrow hc) (fun r₀ r₁ _ hput => ?_) fun r₀ e r₁ hr₀ hput hne => ?_
  · cases hput with
    | fid _ hv => exact Except.ok.inj (hv.symm.trans (encodeFid_cell options hr hk _))
    | datum hp' | geometry hp' => cases hp'.symm.trans hp
  · cases hput with
    | fid hp' => exact absurd hp' hne
    | datum | geometry => exact hr₀

theorem geometries_eq (ht : t.Rereads options) (h : t.Holds options r)
    (hrow : (ReadPlan.make t.schema .none options).decodeRow .plain options r = .ok row)
    (hr' : t.encode .plain row = .ok r') : r'.geometries = r.geometries := by
  have hlen := h.typed.length_geometries
  have hlen' := (shape_of_encode hr').2
  refine List.ext_getElem? fun i => ?_
  by_cases hi : i < t.schema.geometryFields.length
  · have hg := List.getElem?_eq_getElem hi
    have hx := List.getElem?_eq_getElem (l := r.geometries) (by rwa [hlen])
    have hc := ht.mem_columns.mpr (.inr (.inr ⟨i, _, hg, rfl⟩))
    obtain ⟨x, hx', hr'x⟩ := geometry_of_encode hr' (ht.entry_mem hrow hc) (ht.place?_column hc)
      (ht.entry_only hrow hc) hg
    rw [hr'x, hx, Except.ok.inj (hx'.symm.trans (h.encodeGeometry ht hg hx _))]
  · rw [List.getElem?_eq_none (by omega), List.getElem?_eq_none (by omega)]

end Rereads

/-- A record that is read as a row is restored by encoding the row. -/
theorem encode_of_decodeRow {k : Int} (ht : t.Rereads options) (h : t.Holds options r)
    (hr : r.fid = some k) (hk : k ≠ Record.missingFid)
    (hrow : (ReadPlan.make t.schema .none options).decodeRow .plain options r = .ok row) :
    ∃ r', t.encode .plain row = .ok r' ∧ r.Restored t.schema r' := by
  have hput : ∀ e ∈ row.entries, ∀ r₀, ∃ r₁, t.Puts .plain r₀ e r₁ := by
    intro e he r₀
    rw [ht.entries hrow] at he
    obtain ⟨c, hc, rfl⟩ := List.mem_map.mp he
    exact ht.puts h hr hk hc r₀
  obtain ⟨r', hr'⟩ := encode_ok hput
  have hlen := (shape_of_encode hr').1
  refine ⟨r', hr', (ht.fid_eq hrow hr hk hr').trans hr.symm, hlen.trans h.typed.length_data.symm,
    fun i f d hf hd => ?_, ht.geometries_eq h hrow hr'⟩
  have hc := ht.mem_columns.mpr (.inr (.inl ⟨i, f, hf, rfl⟩))
  obtain ⟨d', hd', hrestores⟩ := h.restores ht hf hd
  obtain ⟨x, hx, hr'x⟩ := data_of_encode hr' (ht.entry_mem hrow hc) (ht.place?_column hc)
    (ht.entry_only hrow hc) hf
  obtain rfl := Except.ok.inj (hx.symm.trans hd')
  exact ⟨x, hr'x, hrestores⟩

end

end RowTarget

end FeatureLayer
