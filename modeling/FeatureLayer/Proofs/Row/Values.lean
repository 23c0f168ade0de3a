import FeatureLayer.Proofs.Row.RoundTrip

namespace FeatureLayer

/-- Lists that fields take: no item is missing, or there are items and all are missing. -/
inductive Storable {α : Type} : List (Option α) → Prop
  | complete (l : List α) : Storable (l.map some)
  | missing (n : Nat) : Storable (List.replicate (n + 1) none)

namespace Field

variable {α : Type} {expected : String} {make : List α → Datum} {l : List (Option α)} {d : Datum}

theorem exists_map_some (h : ∀ x ∈ l, x.isSome = true) : ∃ m : List α, l = m.map some := by
  induction l with
  | nil => exact ⟨[], rfl⟩
  | cons x l ih =>
    obtain ⟨hx, hl⟩ := List.forall_mem_cons.mp h
    obtain ⟨a, rfl⟩ := Option.isSome_iff_exists.mp hx
    obtain ⟨m, rfl⟩ := ih hl
    exact ⟨a :: m, rfl⟩

theorem storable_of_items (h : items expected make l = .ok d) : Storable l := by
  unfold items at h
  split at h
  next hmissing =>
    rw [Bool.and_eq_true, List.all_eq_true] at hmissing
    obtain ⟨hne, hnone⟩ := hmissing
    have hl : l = List.replicate l.length none :=
      List.eq_replicate_iff.mpr ⟨rfl, fun x hx => Option.isNone_iff_eq_none.mp (hnone x hx)⟩
    cases l with
    | nil => cases hne
    | cons x l =>
      rw [hl]
      exact .missing l.length
  · split at h
    next hcomplete =>
      obtain ⟨m, rfl⟩ := exists_map_some (List.all_eq_true.mp hcomplete)
      exact .complete m
    · cases h

theorem items_replicate_none (n : Nat) : items expected make (List.replicate (n + 1) none) = .ok .null := by
  simp [items]

end Field

namespace Value

def isMissing : Value → Bool
  | null => true
  | integers l | integers64 l => !l.isEmpty && l.all (·.isNone)
  | reals l => !l.isEmpty && l.all (·.isNone)
  | texts l => !l.isEmpty && l.all (·.isNone)
  | _ => false

/-- The value in the form that a field of the kind gives it: what is missing as fields show it, and
numbers in the width of the field, as truth values where it holds these. -/
def canonical (kind : FieldKind) (subkind : Subkind) (v : Value) : Value :=
  if v.isMissing then absent kind else
    match kind, v with
    | .integer, .integer n | .integer, .integer64 n =>
      if subkind = .boolean then .boolean (n ≠ 0) else .integer n
    | .integer, .boolean b =>
      if subkind = .boolean then .boolean b else .integer (if b then 1 else 0)
    | .integer64, .integer n => .integer64 n
    | .integer64, .boolean b => .integer64 (if b then 1 else 0)
    | .integers, .integers l =>
      .integers (l.map (·.map fun n => if subkind = .boolean then if n = 0 then 0 else 1 else n))
    | .integers64, .integers l => .integers64 l
    | _, v => v

end Value

/-- The values that a field of the kind takes, other than real numbers and moments. -/
inductive FieldKind.Accepts : FieldKind → Value → Prop
  | null {kind : FieldKind} : Accepts kind .null
  | integer (n : Int) : Accepts .integer (.integer n)
  | integerOfBoolean (b : Bool) : Accepts .integer (.boolean b)
  | narrowed {n : Int} (lo : -(Nat.pow 2 31 : Int) ≤ n) (hi : n < Nat.pow 2 31) : Accepts .integer (.integer64 n)
  | integer64 (n : Int) : Accepts .integer64 (.integer64 n)
  | widened (n : Int) : Accepts .integer64 (.integer n)
  | integer64OfBoolean (b : Bool) : Accepts .integer64 (.boolean b)
  | text (s : String) : Accepts .text (.text s)
  | binary (bytes : List UInt8) : Accepts .binary (.binary bytes)
  | date {d : Date} (h : d.isValid = true) : Accepts .date (.date d.dayNumber)
  | integers {l : List (Option Int)} (h : Storable l) : Accepts .integers (.integers l)
  | integers64 {l : List (Option Int)} (h : Storable l) : Accepts .integers64 (.integers64 l)
  | widenedIntegers {l : List (Option Int)} (h : Storable l) : Accepts .integers64 (.integers l)
  | texts {l : List (Option String)} (h : Storable l) : Accepts .texts (.texts l)

/-- What a field has stored for a value: null for what is missing, else a datum of its own kind, and it
is read as the value in the form of the field. -/
structure Field.Keeps (f : Field) (v : Value) (d : Datum) : Prop where
  isNull : d = .null ↔ v.isMissing = true
  owns : d ≠ .null → f.kind.owns d = true
  reads : Value.ofDatum f.kind f.subkind d = v.canonical f.kind f.subkind

namespace Field

variable {f : Field} {v : Value} {d : Datum}

theorem keeps_null (hv : v.isMissing = true) : f.Keeps v .null where
  isNull := ⟨fun _ => hv, fun _ => rfl⟩
  owns h := absurd rfl h
  reads := by
    unfold Value.canonical
    rw [if_pos hv, Value.ofDatum_of_isAbsent rfl]

theorem keeps_present (hv : v.isMissing = false) (hd : f.kind.owns d = true)
    (hreads : Value.ofDatum f.kind f.subkind d = v.canonical f.kind f.subkind) : f.Keeps v d where
  isNull := by
    rw [hv]
    refine ⟨fun h => ?_, nofun⟩
    rw [h] at hd
    cases hk : f.kind <;> rw [hk] at hd <;> cases hd
  owns _ := hd
  reads := hreads

theorem keeps_items {α : Type} {expected : String} {make : List α → Datum} {l : List (Option α)}
    (hl : Storable l) (hmissing : v.isMissing = (!l.isEmpty && l.all (·.isNone)))
    (howns : ∀ m, f.kind.owns (make m) = true)
    (hreads : v.isMissing = false → ∀ m, l = m.map some →
      Value.ofDatum f.kind f.subkind (make m) = v.canonical f.kind f.subkind) :
    ∃ d, items expected make l = .ok d ∧ f.Keeps v d := by
  cases hl with
  | complete m =>
    have hpresent : v.isMissing = false := by
      rw [hmissing]
      cases m <;> rfl
    exact ⟨make m, items_map_some expected make m,
      keeps_present hpresent (howns m) (hreads hpresent m rfl)⟩
  | missing n => exact ⟨.null, items_replicate_none n, keeps_null (by rw [hmissing]; simp)⟩

theorem store_of_accepts (h : f.kind.Accepts v) : ∃ d, f.store v = .ok d ∧ f.Keeps v d := by
  have hitems := @keeps_items f v
  have hkeeps := @keeps_present f v
  unfold store
  generalize hk : f.kind = kind at h hkeeps hitems
  cases h with
  | null => exact ⟨.null, by cases kind <;> rfl, keeps_null rfl⟩
  | integer n => exact ⟨.integer n, rfl, hkeeps rfl rfl rfl⟩
  | integerOfBoolean b =>
    refine ⟨_, rfl, hkeeps rfl rfl ?_⟩
    cases b <;> rfl
  | @narrowed n lo hi =>
    have hn : integer32 n (toString n) = .ok n := if_pos ⟨lo, Int.le_sub_one_of_lt hi⟩
    exact ⟨.integer n, by simp only [hn, Except.map], hkeeps rfl rfl rfl⟩
  | integer64 n | widened n | integer64OfBoolean b | text | binary => exact ⟨_, rfl, hkeeps rfl rfl rfl⟩
  | @date d hd =>
    have hday := Date.ofDayNumber?_dayNumber hd
    exact ⟨.date (.ofDate d), by simp only [Value.toDate?_date hday],
      hkeeps rfl rfl (Value.ofDatum_ofDate hday f.subkind)⟩
  | integers hl =>
    refine hitems hl rfl (fun _ => rfl) fun hpresent m hm => ?_
    subst hm
    have htruth : ∀ n : Int, (if f.subkind = .boolean ∧ n ≠ 0 then 1 else n) =
        if f.subkind = .boolean then if n = 0 then 0 else 1 else n := by
      intro n
      by_cases hb : f.subkind = .boolean <;> by_cases hn : n = 0 <;> simp [hb, hn]
    simp [Value.canonical, hpresent, Value.ofDatum, Datum.isAbsent, htruth]
  | integers64 hl | widenedIntegers hl | texts hl =>
    refine hitems hl rfl (fun _ => rfl) fun hpresent m hm => ?_
    subst hm
    simp only [Value.canonical, hpresent]
    rfl

theorem bounds_of_integer32 {n m : Int} {shown : String} (h : integer32 n shown = .ok m) :
    -(Nat.pow 2 31 : Int) ≤ n ∧ n < Nat.pow 2 31 := by
  unfold integer32 within at h
  split at h
  next hn => exact ⟨hn.1, Int.lt_of_le_sub_one hn.2⟩
  · cases h

def plainKinds : List FieldKind :=
  [.integer, .integer64, .text, .binary, .date, .integers, .integers64, .texts]

theorem accepts_of_store (hkind : f.kind ∈ plainKinds) (hreal : ∀ x, v ≠ .real x)
    (hmoment : ∀ x, v ≠ .dateTime x) (h : f.store v = .ok d) : f.kind.Accepts v := by
  unfold store at h
  generalize f.kind = kind at h hkind
  cases kind with
  | real | reals | time | dateTime => simp [plainKinds] at hkind
  | integer =>
    cases v with
    | null => exact .null
    | integer n => exact .integer n
    | boolean b => exact .integerOfBoolean b
    | integer64 n =>
      obtain ⟨m, hm, -⟩ := ok_of_map_eq_ok h
      obtain ⟨lo, hi⟩ := bounds_of_integer32 hm
      exact .narrowed lo hi
    | real x => exact absurd rfl (hreal x)
    | _ => cases h
  | integer64 =>
    cases v with
    | null => exact .null
    | integer n => exact .widened n
    | boolean b => exact .integer64OfBoolean b
    | integer64 n => exact .integer64 n
    | real x => exact absurd rfl (hreal x)
    | _ => cases h
  | text =>
    cases v with
    | null => exact .null
    | text s => exact .text s
    | _ => cases h
  | binary =>
    cases v with
    | null => exact .null
    | binary bytes => exact .binary bytes
    | _ => cases h
  | date =>
    cases v with
    | null => exact .null
    | date n =>
      simp only at h
      split at h
      next day hday =>
        obtain ⟨m, hm, -⟩ := Option.map_eq_some_iff.mp hday
        obtain ⟨d, hd, -⟩ := Option.map_eq_some_iff.mp hm
        obtain ⟨hvalid, rfl⟩ := Date.ofDayNumber?_eq_some_iff.mp hd
        exact .date hvalid
      · cases h
    | dateTime x => exact absurd rfl (hmoment x)
    | _ => cases h
  | integers =>
    cases v with
    | null => exact .null
    | integers l => exact .integers (storable_of_items h)
    | _ => cases h
  | integers64 =>
    cases v with
    | null => exact .null
    | integers l => exact .widenedIntegers (storable_of_items h)
    | integers64 l => exact .integers64 (storable_of_items h)
    | _ => cases h
  | texts =>
    cases v with
    | null => exact .null
    | texts l => exact .texts (storable_of_items h)
    | _ => cases h

/-- A field takes a value just as its kind accepts it, and then keeps it. -/
theorem stores_accepted_values (f : Field) (v : Value) (hkind : f.kind ∈ plainKinds)
    (hreal : ∀ x, v ≠ .real x) (hmoment : ∀ x, v ≠ .dateTime x) :
    ((∃ d, f.store v = .ok d) ↔ f.kind.Accepts v) ∧ ∀ d, f.store v = .ok d → f.Keeps v d := by
  refine ⟨⟨fun ⟨d, hd⟩ => accepts_of_store hkind hreal hmoment hd, fun h => ?_⟩, fun d hd => ?_⟩
  · obtain ⟨d, hd, -⟩ := store_of_accepts h
    exact ⟨d, hd⟩
  · obtain ⟨d', hd', hkeeps⟩ := store_of_accepts (accepts_of_store hkind hreal hmoment hd)
    cases hd.symm.trans hd'
    exact hkeeps

theorem stores_number_as_truth :
    let f : Field := ⟨"b", .integer, .boolean, 0, 0, true, false, none, false, none⟩
    ∃ d, f.store (.integer64 (-7)) = .ok d ∧ Value.ofDatum f.kind f.subkind d = .boolean true := by
  intro f
  obtain ⟨haccepts, hkeeps⟩ := stores_accepted_values f (.integer64 (-7)) (by decide) nofun nofun
  obtain ⟨d, hd⟩ := haccepts.mpr (.narrowed (by decide) (by decide))
  exact ⟨d, hd, (hkeeps d hd).reads⟩

end Field

end FeatureLayer
