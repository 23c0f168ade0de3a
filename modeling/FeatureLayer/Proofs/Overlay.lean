import FeatureLayer.Proofs.Store.Typing
/-!
Overlays between typed tables. Data are copied from field to field by name, and a result may be given
definitions, so that the records it then holds are typed as long as the fields of a name are of one
kind and no record was there before the definitions.
-/

namespace FeatureLayer

namespace Overlay

variable {A : RegionAlgebra} {kind : OverlayKind} {o : Options}

/-- An overlay leaves the store alone, or writes the first of the records that it makes to the result,
which has the definitions that it needs by then. One that succeeds has written them all. -/
theorem run_cases (A : RegionAlgebra) (kind : OverlayKind) (s : Store)
    (input method result : View) (o : Options) (answer : Nat → Bool) :
    let inputFields := (s.table input.table).schema.fields
    let methodFields := (s.table method.table).schema.fields
    let t := prepare kind o inputFields methodFields (s.table result.table)
    let out := run A kind s input method result o answer
    out.store = s ∧ (out.value = .ok () → s.tables.length ≤ result.table) ∨
      result.writable = true ∧ ∃ inputs methods records,
        collect kind o.skipFailures (input.selected (s.table input.table)) = .ok inputs ∧
        collect kind o.skipFailures (method.selected (s.table method.table)) = .ok methods ∧
        records <+: recordsFor A kind o inputFields methodFields t.schema inputs methods ∧
        out.store = s.setTable result.table (writeAll t result records).2.2 ∧
        (out.value = .ok () →
          records = recordsFor A kind o inputFields methodFields t.schema inputs methods ∧
            (writeAll t result records).1 = .ok ()) := by
  intro inputFields methodFields t out
  rcases run_forms A kind s input method result o answer with
    ⟨e, hout, -⟩ | ⟨hw, inputs, methods, hinputs, hmethods, ⟨e, told, hout⟩ | ⟨told, hout⟩⟩
  · rw [show out = _ from hout]
    exact .inl ⟨rfl, nofun⟩
  · rw [show out = _ from hout]
    exact .inr ⟨hw, inputs, methods, [], hinputs, hmethods, List.nil_prefix, rfl, nofun⟩
  · rw [show out = _ from hout]
    by_cases hlt : result.table < s.tables.length
    · rw [writeResult_eq hlt]
      exact .inr ⟨hw, inputs, methods, _, hinputs, hmethods, List.prefix_rfl, setTable_prepared _,
        fun hok => ⟨rfl, hok⟩⟩
    · have hle := Nat.le_of_not_lt hlt
      exact .inl ⟨(setTable_prepared _).trans (Store.setTable_of_le hle _), fun _ => hle⟩

theorem run_store (A : RegionAlgebra) (kind : OverlayKind) (s : Store)
    (input method result : View) (o : Options) (answer : Nat → Bool) :
    ∃ t, (run A kind s input method result o answer).store = s.setTable result.table t := by
  rcases run_cases A kind s input method result o answer with
    ⟨h, -⟩ | ⟨-, _, _, records, -, -, -, h, -⟩
  · exact ⟨_, h.trans (s.setTable_table result.table).symm⟩
  · exact ⟨_, h⟩

theorem tell_of_yes {answer : Nat → Bool} (total call : Nat) {marks : List Nat}
    (h : ∀ k < marks.length, answer (call + k) = true) :
    tell answer total call marks = (true, marks.map (fraction total)) := by
  induction marks generalizing call with
  | nil => rfl
  | cons done marks ih =>
    have hfirst : answer call = true := h 0 (Nat.succ_pos _)
    have hrest := ih (call + 1) fun k hk => by
      have := h (k + 1) (Nat.succ_lt_succ hk)
      rwa [Nat.add_assoc, Nat.add_comm 1 k]
    rw [tell, if_pos hfirst, hrest]
    rfl

theorem tell_of_no {answer : Nat → Bool} (total call : Nat) {marks : List Nat} {k : Nat}
    (hk : k < marks.length) (hyes : ∀ j < k, answer (call + j) = true)
    (hno : answer (call + k) = false) :
    tell answer total call marks = (false, (marks.take (k + 1)).map (fraction total)) := by
  induction marks generalizing call k with
  | nil => cases hk
  | cons done marks ih =>
    cases k with
    | zero =>
      rw [tell, if_neg (by simpa using hno)]
      rfl
    | succ k =>
      have hfirst : answer call = true := hyes 0 (Nat.succ_pos _)
      have hrest := ih (call + 1) (Nat.lt_of_succ_lt_succ hk)
        (fun j hj => by
          have := hyes (j + 1) (Nat.succ_lt_succ hj)
          rwa [Nat.add_assoc, Nat.add_comm 1 j])
        (by rwa [Nat.add_assoc, Nat.add_comm 1 k])
      rw [tell, if_pos hfirst, hrest]
      rfl

/-- Data that go to a field are those of a field of its kind. -/
def SameKinds (source result : List Field) (targets : List (Option Nat)) : Prop :=
  ∀ e ∈ source.zip targets, ∀ i ∈ e.2, ∀ g ∈ result[i]?, g.kind = e.1.kind

instance (source result : List Field) (targets : List (Option Nat)) :
    Decidable (SameKinds source result targets) :=
  inferInstanceAs
    (Decidable (∀ e ∈ source.zip targets, ∀ i ∈ e.2, ∀ g ∈ result[i]?, g.kind = e.1.kind))

theorem takes_place {s : Schema} {data : List Datum} {pairs : List (Datum × Option Nat)}
    (hdata : s.Takes data)
    (hpairs : ∀ e ∈ pairs, ∀ i ∈ e.2, ∀ g ∈ s.fields[i]?, g.kind.Stores e.1) :
    s.Takes (place data pairs) := by
  induction pairs generalizing data with
  | nil => exact hdata
  | cons e pairs ih =>
    obtain ⟨he, hrest⟩ := List.forall_mem_cons.mp hpairs
    obtain ⟨d, target⟩ := e
    cases target with
    | none => exact ih hdata hrest
    | some j => exact ih (hdata.set fun f hf => he j rfl f hf) hrest

theorem takes_placePart {source s : Schema} {part : Option Part} {targets : List (Option Nat)}
    {data : List Datum} (hpart : ∀ p ∈ part, ∃ r : Record, r.Typed source ∧ p.data = r.data)
    (hkinds : SameKinds source.fields s.fields targets) (hdata : s.Takes data) :
    s.Takes (placePart part targets data) := by
  cases part with
  | none => exact hdata
  | some p =>
    obtain ⟨r, hr, hp⟩ := hpart p rfl
    refine takes_place hdata fun e he i hi g hg => ?_
    obtain ⟨k, hk⟩ := List.mem_iff_getElem?.mp he
    obtain ⟨hd, ht⟩ := List.getElem?_zip_eq_some.mp hk
    rw [hp] at hd
    have hlt : k < source.fields.length := hr.length_data ▸ (List.getElem?_eq_some_iff.mp hd).1
    have hf := List.getElem?_eq_getElem hlt
    have hzip : (source.fields[k], e.2) ∈ source.fields.zip targets :=
      List.mem_of_getElem? (List.getElem?_zip_eq_some.mpr ⟨hf, ht⟩)
    rw [hkinds _ hzip i hi g hg]
    exact hr.stores k _ e.1 hf hd

theorem takes_record {inputs methods s : Schema} {promote : Bool}
    {fromInput fromMethod : List (Option Nat)} {p : Piece}
    (hinput : ∀ i ∈ p.input, ∃ r : Record, r.Typed inputs ∧ i.data = r.data)
    (hmethod : ∀ m ∈ p.method, ∃ r : Record, r.Typed methods ∧ m.data = r.data)
    (hinputs : SameKinds inputs.fields s.fields fromInput)
    (hmethods : SameKinds methods.fields s.fields fromMethod) :
    s.Takes (record promote s fromInput fromMethod p).data := by
  refine takes_placePart hmethod hmethods (takes_placePart hinput hinputs fun i f d _ hd => ?_)
  obtain rfl := List.eq_of_mem_replicate (List.mem_of_getElem? hd)
  exact .unset

theorem of_mem_pieces {inputs methods : List Part} {p : Piece}
    (h : p ∈ pieces A kind inputs methods) :
    (∀ i ∈ p.input, i ∈ inputs) ∧ ∀ m ∈ p.method, m ∈ methods := by
  rcases List.mem_append.mp h with h | h
  · obtain ⟨i, hi, h⟩ := List.mem_flatMap.mp h
    have hshared : p ∈ methods.map (fun m : Part => (⟨some i, some m, A.toPolygons
        (A.inter (A.ofPolygons i.polygons) (A.ofPolygons m.polygons))⟩ : Piece)) →
        (∀ i ∈ p.input, i ∈ inputs) ∧ ∀ m ∈ p.method, m ∈ methods := by
      intro h
      obtain ⟨m, hm, rfl⟩ := List.mem_map.mp h
      exact ⟨fun j hj => Option.some.inj hj ▸ hi, fun j hj => Option.some.inj hj ▸ hm⟩
    have halone : ∀ polygons, p = ⟨some i, none, polygons⟩ →
        (∀ i ∈ p.input, i ∈ inputs) ∧ ∀ m ∈ p.method, m ∈ methods := by
      rintro polygons rfl
      exact ⟨fun j hj => Option.some.inj hj ▸ hi, nofun⟩
    cases kind with
    | intersection => exact hshared h
    | union | identity =>
      rcases List.mem_append.mp h with h | h
      · exact hshared h
      · exact halone _ (List.mem_singleton.mp h)
    | symDifference | erase | update | clip => exact halone _ (List.mem_singleton.mp h)
  · split at h
    · obtain ⟨m, hm, rfl⟩ := List.mem_map.mp h
      exact ⟨nofun, fun j hj => Option.some.inj hj ▸ hm⟩
    · cases h

theorem of_mem_collect {skip : Bool} {rs : List Record} {parts : List Part}
    (h : collect kind skip rs = .ok parts) : ∀ p ∈ parts, ∃ r ∈ rs, p.data = r.data := by
  induction rs generalizing parts with
  | nil =>
    cases h
    exact nofun
  | cons r rs ih =>
    have hrest : ∀ {parts}, collect kind skip rs = .ok parts →
        ∀ p ∈ parts, ∃ r' ∈ r :: rs, p.data = r'.data := fun h p hp => by
      obtain ⟨r', hr', hd⟩ := ih h p hp
      exact ⟨r', List.mem_cons_of_mem _ hr', hd⟩
    unfold collect at h
    split at h
    · exact hrest h
    · split at h
      · obtain ⟨rest, hc, rfl⟩ := ok_of_map_eq_ok h
        exact List.forall_mem_cons.mpr ⟨⟨r, List.mem_cons_self, rfl⟩, hrest hc⟩
      · split at h
        · exact hrest h
        · cases h

theorem typed_of_mem_collect {t : FeatureTable} (ht : t.Typed) {v : View} {skip : Bool}
    {parts : List Part} (h : collect kind skip (v.selected t) = .ok parts) :
    ∀ p ∈ parts, ∃ r : Record, r.Typed t.schema ∧ p.data = r.data := by
  intro p hp
  obtain ⟨r, hr, hd⟩ := of_mem_collect h p hp
  obtain ⟨e, he, rfl⟩ := List.mem_map.mp (List.mem_filter.mp hr).1
  exact ⟨e.2, ht e he, hd⟩

theorem staysTyped_writeAll {t : FeatureTable} {v : View} {rs : List Record}
    (h : ∀ r ∈ rs, t.schema.Takes r.data) : t.StaysTyped (writeAll t v rs).2.2 := by
  induction rs generalizing t v with
  | nil => exact .refl t
  | cons r rs ih =>
    obtain ⟨hr, hrs⟩ := List.forall_mem_cons.mp h
    have hcreate := View.staysTyped_create hr v
    rw [writeAll]
    generalize v.create t r = out at hcreate ⊢
    obtain ⟨e | k, v', t'⟩ := out
    · exact hcreate
    · exact hcreate.trans (ih fun r hr => hcreate.schema ▸ hrs r hr)

def Conforms (kind : OverlayKind) (o : Options) (s : Store) (input method result : View) : Prop :=
  let inputFields := (s.table input.table).schema.fields
  let methodFields := (s.table method.table).schema.fields
  let t := prepare kind o inputFields methodFields (s.table result.table)
  (t.schema = (s.table result.table).schema ∨ s.Vacant result.table) ∧
    SameKinds inputFields t.schema.fields (targets o.inputPrefix inputFields t.schema.fields) ∧
    SameKinds methodFields t.schema.fields (methodTargets kind o methodFields t.schema.fields)

instance (kind : OverlayKind) (o : Options) (s : Store) (input method result : View) :
    Decidable (Conforms kind o s input method result) := inferInstanceAs (Decidable (_ ∧ _ ∧ _))

theorem allTyped_run {s : Store} (hs : s.AllTyped) {input method result : View}
    (h : result.writable = true → Conforms kind o s input method result) (answer : Nat → Bool) :
    (run A kind s input method result o answer).store.AllTyped := by
  rcases run_cases A kind s input method result o answer with
    ⟨hstore, -⟩ | ⟨hw, inputs, methods, records, hinputs, hmethods, hfirst, hstore, -⟩
  · rw [hstore]
    exact hs
  · obtain ⟨hdefined, hinput, hmethod⟩ := h hw
    have htyped : (prepare kind o (s.table input.table).schema.fields
        (s.table method.table).schema.fields (s.table result.table)).Typed := by
      rcases hdefined with hsame | hvacant
      · exact (FeatureTable.StaysTyped.of_relabel hsame rfl).typed (hs.tables _)
      · intro e he
        cases hvacant.1 ▸ he
    generalize prepare kind o _ _ (s.table result.table) = t at *
    have hstays : t.StaysTyped (writeAll t result records).2.2 := by
      refine staysTyped_writeAll fun r hr => ?_
      obtain ⟨p, hp, rfl⟩ := List.mem_map.mp (hfirst.subset hr)
      obtain ⟨hi, hm⟩ := of_mem_pieces (List.mem_filter.mp hp).1
      exact takes_record
        (fun i h => typed_of_mem_collect (hs.tables _) hinputs i (hi i h))
        (fun m h => typed_of_mem_collect (hs.tables _) hmethods m (hm m h)) hinput hmethod
    rw [hstore]
    exact hs.setTable (hstays.typed htyped) (hdefined.imp_left hstays.schema.trans)

end Overlay

end FeatureLayer
