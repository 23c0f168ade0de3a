import Mathlib.Data.List.Induction
import FeatureLayer.Row.Encoding

namespace FeatureLayer

def FieldKind.owns : FieldKind → Datum → Bool
  | .integer, .integer _ | .integer64, .integer64 _ | .real, .real _ | .text, .text _
  | .binary, .binary _ | .date, .date _ | .time, .time _ | .dateTime, .dateTime _
  | .integers, .integers _ | .integers64, .integers64 _ | .reals, .reals _ | .texts, .texts _ => true
  | _, _ => false

theorem ok_of_map_eq_ok {α β ε : Type} {x : Except ε α} {g : α → β} {b : β} (h : x.map g = .ok b) :
    ∃ a, x = .ok a ∧ g a = b := by
  cases x with
  | error e => cases h
  | ok a => exact ⟨a, rfl, Except.ok.inj h⟩

namespace Field

theorem items_ok {α : Type} {expected : String} {make : List α → Datum} {l : List (Option α)}
    {d : Datum} (h : items expected make l = .ok d) : d = .null ∨ ∃ m, d = make m := by
  unfold items at h
  split at h
  · cases h
    exact .inl rfl
  · split at h
    · cases h
      exact .inr ⟨_, rfl⟩
    · cases h

theorem store_ok {f : Field} {v : Value} {d : Datum} (h : f.store v = .ok d) :
    d = .null ∨ f.kind.owns d = true := by
  unfold store at h
  split at h
  case h_1 => exact .inl (Except.ok.inj h).symm
  all_goals
    rename_i hk
    try rw [hk]
    try split at h
  all_goals first
    | (cases h; done)
    | (cases h; exact .inr rfl)
    | (obtain ⟨n, -, rfl⟩ := ok_of_map_eq_ok h; exact .inr rfl)
    | (obtain rfl | ⟨m, rfl⟩ := items_ok h
       · exact .inl rfl
       · exact .inr rfl)

theorem store_null (f : Field) : f.store .null = .ok .null := by
  unfold store
  cases f.kind <;> rfl

theorem store_ne_unset (f : Field) (v : Value) : f.store v ≠ .ok .unset := by
  intro h
  rcases store_ok h with h | h
  · cases h
  · cases hk : f.kind <;> rw [hk] at h <;> cases h

end Field

theorem List.of_getElem?_set {α : Type} {l : List α} {i j : Nat} {a x : α}
    (h : (l.set i a)[j]? = some x) : i = j ∧ x = a ∨ i ≠ j ∧ l[j]? = some x := by
  rw [List.getElem?_set] at h
  split at h
  next hij =>
    split at h
    · exact .inl ⟨hij, (Option.some.inj h).symm⟩
    · cases h
  next hij => exact .inr ⟨hij, h⟩

namespace RowTarget

variable {t : RowTarget} {codec : GeometryCodec} {r r' : Record} {e : String × Value}

/-- What putting one entry into a record comes to. -/
inductive Puts (t : RowTarget) (codec : GeometryCodec) (r : Record) (e : String × Value) :
    Record → Prop
  | fid {n : Option Int} (hp : t.place? e.1 = some .fid) (hv : encodeFid e.1 e.2 = .ok n) :
      Puts t codec r e { r with fid := n }
  | datum {i : Nat} {f : Field} {d : Datum} (hp : t.place? e.1 = some (.attribute i))
      (hf : t.schema.fields[i]? = some f) (hv : encodeAttribute f e.2 = .ok d) :
      Puts t codec r e { r with data := r.data.set i d }
  | geometry {i : Nat} {g : GeometryField} {x : Option Geometry}
      (hp : t.place? e.1 = some (.geometry i)) (hg : t.schema.geometryFields[i]? = some g)
      (hv : encodeGeometry codec g e.1 e.2 = .ok x) :
      Puts t codec r e { r with geometries := r.geometries.set i x }

theorem puts_of_encodeEntry (h : t.encodeEntry codec r e = .ok r') : t.Puts codec r e r' := by
  obtain ⟨name, v⟩ := e
  unfold encodeEntry at h
  simp only at h
  split at h
  · cases h
  next hp =>
    cases hv : encodeFid name v with
    | error x => simp [hv, bind, Except.bind] at h
    | ok n =>
      simp only [hv, bind, Except.bind, Except.ok.injEq] at h
      exact h ▸ .fid hp hv
  next i hp =>
    split at h
    · cases h
    next f hf =>
      cases hv : encodeAttribute f v with
      | error x => simp [hv, bind, Except.bind] at h
      | ok d =>
        simp only [hv, bind, Except.bind, Except.ok.injEq] at h
        exact h ▸ .datum hp hf hv
  next i hp =>
    split at h
    · cases h
    next g hg =>
      cases hv : encodeGeometry codec g name v with
      | error x => simp [hv, bind, Except.bind] at h
      | ok x =>
        simp only [hv, bind, Except.bind, Except.ok.injEq] at h
        exact h ▸ .geometry hp hg hv

/-- What holds of a blank record and is kept by every entry holds of the record of a row. -/
theorem encode_induction {P : List (String × Value) → Record → Prop} {row : Row}
    (h : t.encode codec row = .ok r)
    (blank : P [] (.blank t.schema.fields.length t.schema.geometryFields.length))
    (step : ∀ es e r r', P es r → t.Puts codec r e r' → P (es ++ [e]) r') : P row.entries r := by
  unfold encode at h
  generalize row.entries = es at h ⊢
  induction es using List.reverseRecOn generalizing r with
  | nil =>
    cases h
    exact blank
  | append_singleton es e ih =>
    rw [List.foldlM_append] at h
    cases hes : es.foldlM (t.encodeEntry codec)
        (.blank t.schema.fields.length t.schema.geometryFields.length) with
    | error x => simp [hes, bind, Except.bind] at h
    | ok r₀ =>
      simp only [hes, bind, Except.bind, List.foldlM_cons, List.foldlM_nil] at h
      cases he : t.encodeEntry codec r₀ e with
      | error x => simp [he] at h
      | ok r₁ =>
        simp only [he, pure, Except.pure, Except.ok.injEq] at h
        exact h ▸ step es e r₀ r₁ (ih hes) (puts_of_encodeEntry he)

theorem shape_of_encode {row : Row} (h : t.encode codec row = .ok r) :
    r.data.length = t.schema.fields.length ∧ r.geometries.length = t.schema.geometryFields.length := by
  refine encode_induction (P := fun _ r => r.data.length = t.schema.fields.length ∧
    r.geometries.length = t.schema.geometryFields.length) h (by simp [Record.blank]) ?_
  intro es e r r' hr hp
  cases hp <;> simpa using hr

def statedFid? (t : RowTarget) (row : Row) : Option Int :=
  ((row.entries.reverse.find? fun e => t.place? e.1 = some .fid).bind (·.2.toInteger64?)).bind
    Record.fidOf

theorem encodeFid_ok {name : String} {v : Value} {n : Option Int} (h : encodeFid name v = .ok n) :
    n = v.toInteger64?.bind Record.fidOf := by
  cases v <;> first
    | exact (Except.ok.inj h).symm
    | cases h

theorem fid_of_encode {row : Row} (h : t.encode codec row = .ok r) : r.fid = t.statedFid? row := by
  refine encode_induction (P := fun es r => r.fid =
    ((es.reverse.find? fun e => t.place? e.1 = some .fid).bind (·.2.toInteger64?)).bind
      Record.fidOf) h rfl ?_
  intro es e r r' hr hp
  rw [List.reverse_append, List.reverse_singleton, List.singleton_append, List.find?_cons]
  cases hp with
  | fid hp hv => simp [hp, encodeFid_ok hv]
  | datum hp => simp [hp, hr]
  | geometry hp => simp [hp, hr]

theorem store_of_encodeAttribute {f : Field} {v : Value} {d : Datum}
    (h : encodeAttribute f v = .ok d) : (v.isNull && !f.nullable) = false ∧ f.store v = .ok d := by
  unfold encodeAttribute at h
  split at h
  · cases h
  next hn =>
    refine ⟨by simpa using hn, ?_⟩
    cases hs : f.store v with
    | error x => simp [hs, Except.mapError] at h
    | ok d' => simpa [hs, Except.mapError] using h

theorem encodeAttribute_ne_unset {f : Field} {v : Value} {d : Datum}
    (h : encodeAttribute f v = .ok d) : d ≠ .unset := by
  rintro rfl
  exact f.store_ne_unset v (store_of_encodeAttribute h).2

def States (t : RowTarget) (row : Row) (i : Nat) : Prop :=
  ∃ e ∈ row.entries, t.place? e.1 = some (.attribute i)

theorem unset_iff_of_encode {row : Row} (h : t.encode codec row = .ok r) {i : Nat}
    (hi : i < t.schema.fields.length) : r.data[i]? = some .unset ↔ ¬t.States row i := by
  have hlen := (shape_of_encode h).1
  refine (encode_induction (P := fun es r => r.data.length = t.schema.fields.length ∧
    (r.data[i]? = some .unset ↔ ¬∃ e ∈ es, t.place? e.1 = some (.attribute i))) h ?_ ?_).2
  · simp [Record.blank, hi]
  intro es e r r' hr hp
  obtain ⟨hlen, hr⟩ := hr
  cases hp with
  | fid hp => simp [hp, hr, hlen]
  | @datum j f d hp hf hv =>
    refine ⟨by simpa using hlen, ?_⟩
    by_cases hij : j = i
    · subst hij
      have hd := encodeAttribute_ne_unset hv
      have hset : (r.data.set j d)[j]? = some d := List.getElem?_set_self (by omega)
      simp [hset, hd, hp]
    · simp [hp, hr, hij]
  | geometry hp => simp [hp, hr, hlen]

end RowTarget

end FeatureLayer
