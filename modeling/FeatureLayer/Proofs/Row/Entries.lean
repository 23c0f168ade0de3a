import FeatureLayer.Proofs.Row.Encoding

namespace FeatureLayer

structure IsFirst {α : Type} (xs : List α) (p : α → Prop) (i : Nat) : Prop where
  found : ∃ x, xs[i]? = some x ∧ p x
  least : ∀ j < i, ∀ x, xs[j]? = some x → ¬p x

theorem findIdx?_eq_some_iff_isFirst {α : Type} {xs : List α} {p : α → Prop} [DecidablePred p]
    {i : Nat} : (xs.findIdx? fun x => p x) = some i ↔ IsFirst xs p i := by
  rw [List.findIdx?_eq_some_iff_getElem]
  constructor
  · rintro ⟨hi, hp, hleast⟩
    refine ⟨⟨xs[i], List.getElem?_eq_getElem hi, of_decide_eq_true hp⟩, fun j hj x hx => ?_⟩
    obtain ⟨hlt, rfl⟩ := List.getElem?_eq_some_iff.mp hx
    simpa using hleast j hj
  · rintro ⟨⟨x, hx, hp⟩, hleast⟩
    obtain ⟨hi, rfl⟩ := List.getElem?_eq_some_iff.mp hx
    refine ⟨hi, decide_eq_true hp, fun j hj => ?_⟩
    have := hleast j hj _ (List.getElem?_eq_getElem (Nat.lt_trans hj hi))
    simpa using this

namespace RowTarget

/-! ### Names -/

def NamesFid (t : RowTarget) (name : String) : Prop :=
  name = Row.fidName ∨ t.fidColumn ≠ "" ∧ name = t.fidColumn

def NamesFirstGeometry (t : RowTarget) (name : String) : Prop :=
  t.schema.geometryFields ≠ [] ∧
    (name = t.unnamedGeometry ∨ ∃ a ∈ geometryAliases, Text.sameWord name a = true)

/-- What a name of a row means: the identifier before any attribute, an attribute before any geometry,
and the first geometry by one of its other names if there is nothing else of the name. -/
inductive Means (t : RowTarget) (name : String) : Place → Prop
  | fid (hfid : t.NamesFid name) : Means t name .fid
  | field {i : Nat} (hfid : ¬t.NamesFid name) (hi : IsFirst t.schema.fields (·.name = name) i) :
      Means t name (.attribute i)
  | geometry {i : Nat} (hfid : ¬t.NamesFid name) (hfield : ∀ f ∈ t.schema.fields, f.name ≠ name)
      (hi : IsFirst t.schema.geometryFields (·.displayName t.unnamedGeometry = name) i) :
      Means t name (.geometry i)
  | firstGeometry (hfid : ¬t.NamesFid name) (hfield : ∀ f ∈ t.schema.fields, f.name ≠ name)
      (hgeometry : ∀ g ∈ t.schema.geometryFields, g.displayName t.unnamedGeometry ≠ name)
      (hname : t.NamesFirstGeometry name) : Means t name (.geometry 0)

variable {t : RowTarget} {name : String} {p : Place}

theorem namesFid_iff :
    (name = Row.fidName || (!t.fidColumn.isEmpty && name = t.fidColumn)) = true ↔ t.NamesFid name := by
  simp [NamesFid]

theorem namesFirstGeometry_iff :
    ((name = t.unnamedGeometry || geometryAliases.any (Text.sameWord name)) &&
      !t.schema.geometryFields.isEmpty) = true ↔ t.NamesFirstGeometry name := by
  rw [Bool.and_eq_true, Bool.or_eq_true, List.any_eq_true, decide_eq_true_eq]
  simp only [NamesFirstGeometry, Bool.not_eq_true', List.isEmpty_eq_false_iff, ne_eq]
  exact and_comm

theorem place?_eq_some_iff : t.place? name = some p ↔ t.Means name p := by
  unfold place?
  constructor
  · intro h
    split at h
    next hfid =>
      cases h
      exact .fid (namesFid_iff.mp hfid)
    next hfid =>
      replace hfid := mt namesFid_iff.mpr hfid
      split at h
      next i hi =>
        cases h
        exact .field hfid (findIdx?_eq_some_iff_isFirst.mp hi)
      next i hnone hi =>
        cases h
        have hfield := List.findIdx?_eq_none_iff.mp hnone
        exact .geometry hfid (fun f hf => of_decide_eq_false (hfield f hf))
          (findIdx?_eq_some_iff_isFirst.mp hi)
      next hnone hnone' =>
        have hfield := List.findIdx?_eq_none_iff.mp hnone
        have hgeometry := List.findIdx?_eq_none_iff.mp hnone'
        split at h
        next hname =>
          cases h
          exact .firstGeometry hfid (fun f hf => of_decide_eq_false (hfield f hf))
            (fun g hg => of_decide_eq_false (hgeometry g hg)) (namesFirstGeometry_iff.mp hname)
        · cases h
  · intro h
    have hnoField (hfield : ∀ f ∈ t.schema.fields, f.name ≠ name) :
        t.schema.fieldIndex? name = none :=
      List.findIdx?_eq_none_iff.mpr fun f hf => decide_eq_false (hfield f hf)
    cases h with
    | fid hfid => exact if_pos (namesFid_iff.mpr hfid)
    | @field i hfid hi =>
      have hindex : t.schema.fieldIndex? name = some i := findIdx?_eq_some_iff_isFirst.mpr hi
      rw [if_neg (mt namesFid_iff.mp hfid), hindex]
    | @geometry i hfid hfield hi =>
      have hindex : t.schema.geometryIndex? name t.unnamedGeometry = some i :=
        findIdx?_eq_some_iff_isFirst.mpr hi
      rw [if_neg (mt namesFid_iff.mp hfid), hnoField hfield, hindex]
    | firstGeometry hfid hfield hgeometry hname =>
      have hnone : t.schema.geometryIndex? name t.unnamedGeometry = none :=
        List.findIdx?_eq_none_iff.mpr fun g hg => decide_eq_false (hgeometry g hg)
      rw [if_neg (mt namesFid_iff.mp hfid), hnoField hfield, hnone]
      exact if_pos (namesFirstGeometry_iff.mpr hname)

end RowTarget

/-! ### Entries that fail -/

/-- Values that hold no geometry: null, no bytes and blank texts. -/
inductive Value.HoldsNoGeometry : Value → Prop
  | null : HoldsNoGeometry .null
  | binary : HoldsNoGeometry (.binary [])
  | wkb : HoldsNoGeometry (.geometry (.wkb []))
  | text {s : String} (h : Text.isBlank s = true) : HoldsNoGeometry (.text s)
  | wkt {s : String} (h : Text.isBlank s = true) : HoldsNoGeometry (.geometry (.wkt s))

theorem GeometryCodec.ofValue_eq_ok_none_iff {codec : GeometryCodec} {name : String} {v : Value} :
    codec.ofValue name v = .ok none ↔ v.HoldsNoGeometry := by
  have hwkb : ∀ bs, codec.wkbOrNone bs = .ok none ↔ bs = [] := by
    intro bs
    unfold wkbOrNone
    cases bs with
    | nil => simp
    | cons b bs => cases codec.ofWkb (b :: bs) <;> simp [Except.map]
  have hwkt : ∀ s, codec.wktOrNone s = .ok none ↔ Text.isBlank s = true := by
    intro s
    unfold wktOrNone
    cases Text.isBlank s with
    | true => simp
    | false => cases codec.ofWkt s <;> simp [Except.map]
  constructor
  · intro h
    unfold ofValue at h
    split at h
    · exact .null
    · exact (hwkb _).mp h ▸ .binary
    · exact (hwkb _).mp h ▸ .wkb
    · exact .text ((hwkt _).mp h)
    · exact .wkt ((hwkt _).mp h)
    · cases h
  · intro h
    cases h with
    | null => rfl
    | binary | wkb => exact (hwkb []).mpr rfl
    | text h | wkt h => exact (hwkt _).mpr h

namespace RowTarget

inductive Fails (t : RowTarget) (codec : GeometryCodec) (e : String × Value) : Error → Prop
  | unmapped (h : ∀ p, ¬t.Means e.1 p) : Fails t codec e (.unmappedField e.1 t.layerName)
  | fid (hp : t.Means e.1 .fid) (hnull : e.2 ≠ .null) (hv : e.2.toInteger64? = none) :
      Fails t codec e (.typeMismatch e.1 "integer64" e.2.kind)
  | noValue {i : Nat} {f : Field} (hp : t.Means e.1 (.attribute i)) (hf : t.schema.fields[i]? = some f)
      (hv : e.2 = .null) (hn : f.nullable = false) : Fails t codec e (.notNullable f.name)
  | value {i : Nat} {f : Field} {u : Unstorable} (hp : t.Means e.1 (.attribute i))
      (hf : t.schema.fields[i]? = some f) (hv : f.store e.2 = .error u) :
      Fails t codec e (u.error f.name e.2)
  | noGeometry {i : Nat} {g : GeometryField} (hp : t.Means e.1 (.geometry i))
      (hg : t.schema.geometryFields[i]? = some g) (hv : e.2.HoldsNoGeometry)
      (hn : g.nullable = false) : Fails t codec e (.notNullable e.1)
  | geometry {i : Nat} {x : Error} (hp : t.Means e.1 (.geometry i))
      (hv : codec.ofValue e.1 e.2 = .error x) : Fails t codec e x

variable {t : RowTarget} {codec : GeometryCodec} {r : Record} {e : String × Value} {x : Error}

theorem exists_field_of_means {name : String} {i : Nat} (h : t.Means name (.attribute i)) :
    ∃ f, t.schema.fields[i]? = some f := by
  cases h with
  | field _ hi =>
    obtain ⟨f, hf, -⟩ := hi.found
    exact ⟨f, hf⟩

theorem exists_geometryField_of_means {name : String} {i : Nat} (h : t.Means name (.geometry i)) :
    ∃ g, t.schema.geometryFields[i]? = some g := by
  cases h with
  | geometry _ _ hi =>
    obtain ⟨g, hg, -⟩ := hi.found
    exact ⟨g, hg⟩
  | firstGeometry _ _ _ hname =>
    obtain ⟨g, gs, hgs⟩ := List.exists_cons_of_ne_nil hname.1
    exact ⟨g, by rw [hgs]; rfl⟩

theorem encodeFid_eq_error_iff {name : String} {v : Value} : encodeFid name v = .error x ↔
    v ≠ .null ∧ v.toInteger64? = none ∧ x = .typeMismatch name "integer64" v.kind := by
  unfold encodeFid
  split
  · simp
  next hnull =>
    cases hv : v.toInteger64? with
    | some n => simp
    | none =>
      have hne : v ≠ .null := hnull
      simp [hne, eq_comm]

theorem encodeAttribute_eq_error_iff {f : Field} {v : Value} : encodeAttribute f v = .error x ↔
    v = .null ∧ f.nullable = false ∧ x = .notNullable f.name ∨
      ∃ u, f.store v = .error u ∧ x = u.error f.name v := by
  have hnull : v.isNull = true ↔ v = .null := by cases v <;> simp [Value.isNull]
  have htaken : (v.isNull && !f.nullable) = true ↔ v = .null ∧ f.nullable = false := by
    rw [Bool.and_eq_true, hnull, Bool.not_eq_true']
  unfold encodeAttribute
  split
  next h =>
    obtain ⟨rfl, hn⟩ := htaken.mp h
    simp [f.store_null, hn, eq_comm]
  next h =>
    have hfirst : ¬(v = .null ∧ f.nullable = false ∧ x = .notNullable f.name) :=
      fun ⟨hv, hn, _⟩ => h (htaken.mpr ⟨hv, hn⟩)
    rw [or_iff_right hfirst]
    cases f.store v <;> simp [Except.mapError, eq_comm]

theorem encodeGeometry_eq_error_iff {g : GeometryField} {name : String} {v : Value} :
    encodeGeometry codec g name v = .error x ↔
      v.HoldsNoGeometry ∧ g.nullable = false ∧ x = .notNullable name ∨
        codec.ofValue name v = .error x := by
  have hnone : codec.ofValue name v = .ok none ↔ v.HoldsNoGeometry :=
    GeometryCodec.ofValue_eq_ok_none_iff
  rw [← hnone]
  unfold encodeGeometry
  cases codec.ofValue name v with
  | error y => simp [bind, Except.bind]
  | ok y =>
    cases y with
    | none => cases g.nullable <;> simp [bind, Except.bind, eq_comm]
    | some y => simp [bind, Except.bind]

theorem bind_ok_eq_error_iff {α β : Type} {y : Except Error α} {g : α → β} :
    (do .ok (g (← y))) = .error x ↔ y = .error x := by
  cases y <;> simp [bind, Except.bind]

theorem encodeEntry_eq_error_iff : t.encodeEntry codec r e = .error x ↔ t.Fails codec e x := by
  obtain ⟨name, v⟩ := e
  unfold encodeEntry
  simp only
  constructor
  · intro h
    split at h
    next hp =>
      cases h
      refine .unmapped fun p hm => ?_
      cases hp.symm.trans (place?_eq_some_iff.mpr hm)
    next hp =>
      obtain ⟨hnull, hv, rfl⟩ := encodeFid_eq_error_iff.mp (bind_ok_eq_error_iff.mp h)
      exact .fid (place?_eq_some_iff.mp hp) hnull hv
    next i hp =>
      replace hp := place?_eq_some_iff.mp hp
      obtain ⟨f, hf⟩ := exists_field_of_means hp
      simp only [hf] at h
      obtain ⟨hv, hn, rfl⟩ | ⟨u, hu, rfl⟩ := encodeAttribute_eq_error_iff.mp (bind_ok_eq_error_iff.mp h)
      · exact .noValue hp hf hv hn
      · exact .value hp hf hu
    next i hp =>
      replace hp := place?_eq_some_iff.mp hp
      obtain ⟨g, hg⟩ := exists_geometryField_of_means hp
      simp only [hg] at h
      obtain ⟨hv, hn, rfl⟩ | hv := encodeGeometry_eq_error_iff.mp (bind_ok_eq_error_iff.mp h)
      · exact .noGeometry hp hg hv hn
      · exact .geometry hp hv
  · intro h
    cases h with
    | unmapped h =>
      have hnone : t.place? name = none :=
        Option.eq_none_iff_forall_ne_some.mpr fun p hp => h p (place?_eq_some_iff.mp hp)
      rw [hnone]
    | fid hp hnull hv =>
      rw [place?_eq_some_iff.mpr hp]
      exact bind_ok_eq_error_iff.mpr (encodeFid_eq_error_iff.mpr ⟨hnull, hv, rfl⟩)
    | noValue hp hf hv hn =>
      simp only [place?_eq_some_iff.mpr hp, hf]
      exact bind_ok_eq_error_iff.mpr (encodeAttribute_eq_error_iff.mpr (.inl ⟨hv, hn, rfl⟩))
    | value hp hf hv =>
      simp only [place?_eq_some_iff.mpr hp, hf]
      exact bind_ok_eq_error_iff.mpr (encodeAttribute_eq_error_iff.mpr (.inr ⟨_, hv, rfl⟩))
    | noGeometry hp hg hv hn =>
      simp only [place?_eq_some_iff.mpr hp, hg]
      exact bind_ok_eq_error_iff.mpr (encodeGeometry_eq_error_iff.mpr (.inl ⟨hv, hn, rfl⟩))
    | geometry hp hv =>
      obtain ⟨g, hg⟩ := exists_geometryField_of_means hp
      simp only [place?_eq_some_iff.mpr hp, hg]
      exact bind_ok_eq_error_iff.mpr (encodeGeometry_eq_error_iff.mpr (.inr hv))

/-- Of entries that fail the first one counts. -/
theorem foldlM_encodeEntry_eq_error_iff {es : List (String × Value)} :
    es.foldlM (t.encodeEntry codec) r = .error x ↔ ∃ before e after, es = before ++ e :: after ∧
      (∀ b ∈ before, ∀ y, ¬t.Fails codec b y) ∧ t.Fails codec e x := by
  induction es generalizing r with
  | nil => simp [pure, Except.pure]
  | cons e es ih =>
    rw [List.foldlM_cons]
    constructor
    · intro h
      cases he : t.encodeEntry codec r e with
      | error y =>
        rw [he] at h
        cases h
        exact ⟨[], e, es, rfl, nofun, encodeEntry_eq_error_iff.mp he⟩
      | ok r' =>
        rw [he] at h
        obtain ⟨before, e', after, rfl, hbefore, hfails⟩ := ih.mp h
        refine ⟨e :: before, e', after, rfl, ?_, hfails⟩
        rw [List.forall_mem_cons]
        refine ⟨fun y hy => ?_, hbefore⟩
        cases he.symm.trans (encodeEntry_eq_error_iff.mpr hy)
    · rintro ⟨before, e', after, heq, hbefore, hfails⟩
      cases before with
      | nil =>
        cases heq
        rw [encodeEntry_eq_error_iff.mpr hfails]
        rfl
      | cons b before =>
        cases heq
        rw [List.forall_mem_cons] at hbefore
        cases he : t.encodeEntry codec r e with
        | error y => exact absurd (encodeEntry_eq_error_iff.mp he) (hbefore.1 y)
        | ok r' => exact ih.mpr ⟨before, e', after, rfl, hbefore.2, hfails⟩

/-! ### Entries that count -/

def LeavesOut (t : RowTarget) (p : Place) (es : List (String × Value)) : Prop :=
  ∀ e ∈ es, ¬t.Means e.1 p

/-- The last of the entries that mean a place. -/
def IsLast (t : RowTarget) (p : Place) (es : List (String × Value)) (e : String × Value) : Prop :=
  ∃ before after, es = before ++ e :: after ∧ t.Means e.1 p ∧ t.LeavesOut p after

/-- The place holds what the last entry that means it gives, or what it holds by default. -/
def Holding {α : Type} (t : RowTarget) (p : Place) (es : List (String × Value))
    (Gives : String × Value → α → Prop) (default : α) (x : α) : Prop :=
  (∃ e, t.IsLast p es e ∧ Gives e x) ∨ t.LeavesOut p es ∧ x = default

theorem Holding.start {α : Type} (Gives : String × Value → α → Prop) (default : α) (p : Place) :
    t.Holding p [] Gives default default := .inr ⟨nofun, rfl⟩

theorem Holding.given {α : Type} {p : Place} {es : List (String × Value)}
    {Gives : String × Value → α → Prop} {default x : α} (hp : t.Means e.1 p) (hx : Gives e x) :
    t.Holding p (es ++ [e]) Gives default x := .inl ⟨e, ⟨es, [], rfl, hp, nofun⟩, hx⟩

theorem Holding.kept {α : Type} {p : Place} {es : List (String × Value)}
    {Gives : String × Value → α → Prop} {default x : α} (h : t.Holding p es Gives default x)
    (hp : ¬t.Means e.1 p) : t.Holding p (es ++ [e]) Gives default x := by
  have hother (es : List (String × Value)) (hes : t.LeavesOut p es) : t.LeavesOut p (es ++ [e]) := by
    intro a ha
    rcases List.mem_append.mp ha with ha | ha
    · exact hes a ha
    · obtain rfl := List.mem_singleton.mp ha
      exact hp
  rcases h with ⟨e', ⟨before, after, rfl, hp', hafter⟩, hx⟩ | ⟨hnone, hx⟩
  · exact .inl ⟨e', ⟨before, after ++ [e], by simp, hp', hother after hafter⟩, hx⟩
  · exact .inr ⟨hother es hnone, hx⟩

/-- The record has a place for each field, and every place holds what its last entry gives. -/
structure Encoded (t : RowTarget) (codec : GeometryCodec) (es : List (String × Value)) (r : Record) :
    Prop where
  length_data : r.data.length = t.schema.fields.length
  length_geometries : r.geometries.length = t.schema.geometryFields.length
  fid : t.Holding .fid es (fun e n => n = e.2.toInteger64?.bind Record.fidOf) none r.fid
  datum : ∀ (i : Nat) (f : Field) (d : Datum), t.schema.fields[i]? = some f → r.data[i]? = some d →
    t.Holding (.attribute i) es (fun e d => f.store e.2 = .ok d) .unset d
  geometry : ∀ (i : Nat) (g : Option Geometry), r.geometries[i]? = some g →
    t.Holding (.geometry i) es (fun e g => codec.ofValue e.1 e.2 = .ok g) none g

theorem Means.unique {name : String} {p q : Place} (hp : t.Means name p) (hq : t.Means name q) :
    p = q :=
  Option.some.inj ((place?_eq_some_iff.mpr hp).symm.trans (place?_eq_some_iff.mpr hq))

theorem encoded_blank (t : RowTarget) (codec : GeometryCodec) :
    t.Encoded codec [] (.blank t.schema.fields.length t.schema.geometryFields.length) where
  length_data := List.length_replicate
  length_geometries := List.length_replicate
  fid := .start _ _ _
  datum i f d _ hd := by
    obtain rfl := List.eq_of_mem_replicate (List.mem_of_getElem? hd)
    exact .start _ _ _
  geometry i g hg := by
    obtain rfl := List.eq_of_mem_replicate (List.mem_of_getElem? hg)
    exact .start _ _ _

theorem ofValue_of_encodeGeometry {g : GeometryField} {name : String} {v : Value}
    {x : Option Geometry} (h : encodeGeometry codec g name v = .ok x) : codec.ofValue name v = .ok x := by
  unfold encodeGeometry at h
  cases hv : codec.ofValue name v with
  | error y => simp [hv, bind, Except.bind] at h
  | ok y =>
    simp only [hv, bind, Except.bind] at h
    split at h
    · cases h
    · exact h

/-- An entry gives its place what it holds from then on, and leaves the others. -/
theorem Encoded.puts {es : List (String × Value)} {r r' : Record} (h : t.Encoded codec es r)
    (hput : t.Puts codec r e r') : t.Encoded codec (es ++ [e]) r' := by
  have hapart {p q : Place} (hp : t.place? e.1 = some p) (hne : p ≠ q) : ¬t.Means e.1 q :=
    fun hq => hne ((place?_eq_some_iff.mp hp).unique hq)
  cases hput with
  | fid hp hv =>
    exact
      { length_data := h.length_data
        length_geometries := h.length_geometries
        fid := .given (place?_eq_some_iff.mp hp) (encodeFid_ok hv)
        datum := fun i f d hf hd => (h.datum i f d hf hd).kept (hapart hp nofun)
        geometry := fun i g hg => (h.geometry i g hg).kept (hapart hp nofun) }
  | @datum i f d hp hf hv =>
    exact
      { length_data := by simpa using h.length_data
        length_geometries := h.length_geometries
        fid := h.fid.kept (hapart hp nofun)
        datum := by
          intro j f' d' hf' hd'
          obtain ⟨rfl, rfl⟩ | ⟨hij, hd'⟩ := List.of_getElem?_set hd'
          · cases hf.symm.trans hf'
            exact .given (place?_eq_some_iff.mp hp) (store_of_encodeAttribute hv).2
          · exact (h.datum j f' d' hf' hd').kept (hapart hp fun heq => hij (Place.attribute.inj heq))
        geometry := fun i g hg => (h.geometry i g hg).kept (hapart hp nofun) }
  | @geometry i g x hp hg hv =>
    exact
      { length_data := h.length_data
        length_geometries := by simpa using h.length_geometries
        fid := h.fid.kept (hapart hp nofun)
        datum := fun i f d hf hd => (h.datum i f d hf hd).kept (hapart hp nofun)
        geometry := by
          intro j y hy
          obtain ⟨rfl, rfl⟩ | ⟨hij, hy⟩ := List.of_getElem?_set hy
          · exact .given (place?_eq_some_iff.mp hp) (ofValue_of_encodeGeometry hv)
          · exact (h.geometry j y hy).kept (hapart hp fun heq => hij (Place.geometry.inj heq)) }

theorem exists_first_fails {es : List (String × Value)} (he : e ∈ es) (hx : t.Fails codec e x) :
    ∃ before e after y, es = before ++ e :: after ∧ (∀ b ∈ before, ∀ y, ¬t.Fails codec b y) ∧
      t.Fails codec e y := by
  classical
  have hsome : (es.find? fun e => ∃ x, t.Fails codec e x).isSome = true :=
    List.find?_isSome.mpr ⟨e, he, decide_eq_true ⟨x, hx⟩⟩
  obtain ⟨e', hfind⟩ := Option.isSome_iff_exists.mp hsome
  obtain ⟨hfails, before, after, heq, hbefore⟩ := List.find?_eq_some_iff_append.mp hfind
  obtain ⟨y, hy⟩ := of_decide_eq_true hfails
  refine ⟨before, e', after, y, heq, fun b hb z hz => ?_, hy⟩
  have hnot := hbefore b hb
  rw [Bool.not_eq_true', decide_eq_false_iff_not] at hnot
  exact hnot ⟨z, hz⟩

/-- A row fails if and only if one of its entries does, and then the first of these tells the error.
Else each place of the record holds what the last entry that means it gives. -/
theorem rows_encoded_by_last_entries (t : RowTarget) (codec : GeometryCodec) (row : Row) :
    (∀ x, t.encode codec row = .error x ↔ ∃ before e after, row.entries = before ++ e :: after ∧
      (∀ b ∈ before, ∀ y, ¬t.Fails codec b y) ∧ t.Fails codec e x) ∧
    ((∃ r, t.encode codec row = .ok r) ↔ ∀ e ∈ row.entries, ∀ x, ¬t.Fails codec e x) ∧
    ∀ r, t.encode codec row = .ok r → t.Encoded codec row.entries r := by
  have herror : ∀ x, t.encode codec row = .error x ↔ ∃ before e after,
      row.entries = before ++ e :: after ∧ (∀ b ∈ before, ∀ y, ¬t.Fails codec b y) ∧
        t.Fails codec e x := fun x => foldlM_encodeEntry_eq_error_iff
  refine ⟨herror, ⟨fun ⟨r, hr⟩ e he x hx => ?_, fun hgood => ?_⟩, fun r hr => ?_⟩
  · obtain ⟨before, e, after, y, hfirst⟩ := exists_first_fails he hx
    cases hr.symm.trans ((herror y).mpr ⟨before, e, after, hfirst⟩)
  · cases hr : t.encode codec row with
    | ok r => exact ⟨r, rfl⟩
    | error x =>
      obtain ⟨before, e, after, heq, -, hfails⟩ := (herror x).mp hr
      exact absurd hfails (hgood e (by rw [heq]; simp) x)
  · exact encode_induction hr (encoded_blank t codec) fun es e r r' h hput => h.puts hput

theorem rows_encoded_by_last_entries_of_aliases :
    let t : RowTarget := ⟨⟨[], [⟨"", "Point", true, false, none⟩]⟩, "t", "id", "shape"⟩
    let row : Row := ⟨[("id", .integer 4), ("GEOM", .null), ("FID", .integer64 5),
      ("shape", .text "POINT EMPTY")]⟩
    ∃ r, t.encode .plain row = .ok r ∧ r.fid = some 5 ∧ t.Encoded .plain row.entries r := by
  intro t row
  obtain ⟨-, -, hencoded⟩ := rows_encoded_by_last_entries t .plain row
  obtain ⟨r, hr, hfid⟩ : ∃ r, t.encode .plain row = .ok r ∧ r.fid = some 5 := ⟨_, rfl, rfl⟩
  exact ⟨r, hr, hfid, hencoded r hr⟩

end RowTarget

end FeatureLayer
