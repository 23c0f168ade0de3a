import FeatureLayer.Proofs.Calendar
import FeatureLayer.Proofs.Row.Encoding
import FeatureLayer.Proofs.Store.Writing
import FeatureLayer.Proofs.Table

namespace FeatureLayer

/-- What a field of that kind may have stored for the value of a row. Dates are those of a day. -/
inductive FieldKind.Stores : FieldKind → Datum → Prop
  | unset {kind : FieldKind} : Stores kind .unset
  | null {kind : FieldKind} : Stores kind .null
  | integer (v : Int) : Stores .integer (.integer v)
  | integer64 (v : Int) : Stores .integer64 (.integer64 v)
  | real (v : Double) : Stores .real (.real v)
  | text (v : String) : Stores .text (.text v)
  | binary (v : List UInt8) : Stores .binary (.binary v)
  | date {n : Int} {d : Date} (h : Date.ofDayNumber? n = some d) : Stores .date (.date (.ofDate d))
  | time (t : Stamp) : Stores .time (.time t)
  | dateTime (t : Stamp) : Stores .dateTime (.dateTime t)
  | integers (v : List Int) : Stores .integers (.integers v)
  | integers64 (v : List Int) : Stores .integers64 (.integers64 v)
  | reals (v : List Double) : Stores .reals (.reals v)
  | texts (v : List String) : Stores .texts (.texts v)

theorem FieldKind.Stores.reads {kind : FieldKind} {d : Datum} (h : kind.Stores d) :
    kind.reads d = true := by
  cases h <;> rfl

namespace Field

theorem stores_of_store {f : Field} {v : Value} {d : Datum} (h : f.store v = .ok d) :
    f.kind.Stores d := by
  unfold store at h
  split at h
  case h_1 =>
    cases h
    exact .null
  all_goals
    rename_i hk
    try rw [hk]
    try split at h
  all_goals first
    | (cases h; done)
    | (cases h; constructor; done)
    | (obtain ⟨n, -, rfl⟩ := ok_of_map_eq_ok h; constructor)
    | (obtain rfl | ⟨m, rfl⟩ := items_ok h <;> constructor)
    | (obtain ⟨n, hn⟩ := Value.date_of_toDate? ‹_›; cases h; exact .date hn)

theorem stores_of_fallback? {f : Field} {d : Datum} (h : FeatureTable.fallback? f = some d) :
    f.kind.Stores d := by
  unfold FeatureTable.fallback? at h
  obtain ⟨literal, -, h⟩ := Option.bind_eq_some_iff.mp h
  simp only at h
  split at h
  case h_5 => cases h
  all_goals
    rename_i hk
    rw [hk]
    obtain ⟨n, -, rfl⟩ := Option.map_eq_some_iff.mp h
    constructor

theorem stores_fill {f : Field} {d : Datum} (h : f.kind.Stores d) :
    f.kind.Stores (FeatureTable.fill f d) := by
  cases d with
  | unset =>
    cases hd : FeatureTable.fallback? f with
    | none =>
      rw [FeatureTable.fill, hd]
      exact .unset
    | some d =>
      rw [FeatureTable.fill, hd]
      exact stores_of_fallback? hd
  | _ => exact h

end Field

def Schema.Takes (s : Schema) (data : List Datum) : Prop :=
  ∀ (i : Nat) (f : Field) (d : Datum), s.fields[i]? = some f → data[i]? = some d → f.kind.Stores d

theorem Schema.Takes.set {s : Schema} {data : List Datum} {i : Nat} {d : Datum} (h : s.Takes data)
    (hd : ∀ f, s.fields[i]? = some f → f.kind.Stores d) : s.Takes (data.set i d) := by
  intro j f x hf hx
  obtain ⟨rfl, rfl⟩ | ⟨-, hx⟩ := List.of_getElem?_set hx
  · exact hd f hf
  · exact h j f x hf hx

structure Record.Typed (s : Schema) (r : Record) : Prop where
  length_data : r.data.length = s.fields.length
  length_geometries : r.geometries.length = s.geometryFields.length
  stores : ∀ (i : Nat) (f : Field) (d : Datum), s.fields[i]? = some f → r.data[i]? = some d →
    f.kind.Stores d

namespace Record

variable {s : Schema} {r : Record}

theorem typed_of_encode {t : RowTarget} {codec : GeometryCodec} {row : Row}
    (h : t.encode codec row = .ok r) : r.Typed t.schema := by
  obtain ⟨hdata, hgeometries⟩ := RowTarget.shape_of_encode h
  refine ⟨hdata, hgeometries, ?_⟩
  refine RowTarget.encode_induction (P := fun _ r => t.schema.Takes r.data) h ?_ ?_
  · intro i f d _ hd
    obtain rfl := List.eq_of_mem_replicate (List.mem_of_getElem? hd)
    exact .unset
  · intro es e r r' hr hp
    cases hp with
    | fid | geometry => exact hr
    | datum _ hg hv =>
      refine hr.set fun f hf => ?_
      obtain rfl := Option.some.inj (hf.symm.trans hg)
      exact Field.stores_of_store (RowTarget.store_of_encodeAttribute hv).2

theorem Typed.filled {t : FeatureTable} (h : r.Typed t.schema) (k : Int) :
    (t.filled k r).Typed t.schema where
  length_data := by
    have := h.length_data
    simp [FeatureTable.filled, this]
  length_geometries := h.length_geometries
  stores i f d hf hd := by
    rw [FeatureTable.filled, List.getElem?_zipWith_eq_some] at hd
    obtain ⟨f', d', hf', hd', rfl⟩ := hd
    obtain rfl := Option.some.inj (hf.symm.trans hf')
    exact Field.stores_fill (h.stores i f d' hf hd')

theorem Typed.congr {s' : Schema} (h : r.Typed s) (hf : s'.fields = s.fields)
    (hg : s'.geometryFields.length = s.geometryFields.length) : r.Typed s' where
  length_data := hf ▸ h.length_data
  length_geometries := hg ▸ h.length_geometries
  stores := hf ▸ h.stores

theorem Typed.readable (h : r.Typed s) : r.Readable s := by
  intro e he
  obtain ⟨i, hi⟩ := List.mem_iff_getElem?.mp he
  obtain ⟨hf, hd⟩ := List.getElem?_zip_eq_some.mp hi
  exact (h.stores i e.1 e.2 hf hd).reads

end Record

end FeatureLayer
