import FeatureLayer.Proofs.Row.RoundTrip

namespace FeatureLayer

theorem Datum.same_of_isAbsent {x y : Datum} (hx : x.isAbsent = true) (hy : y.isAbsent = false) :
    x.same y = false := by
  cases x <;> cases hx <;> cases y <;> first | rfl | cases hy

namespace FeatureTable

variable {t t' : FeatureTable} {r r' : Record} {k : Int}

theorem missingField?_restored {s : Schema} (hm : r.Meets s) (h : r.Restored s r') :
    missingField? s r' = none := by
  have hdata : (s.fields.zip r'.data).find? (fun e => !e.1.nullable && e.2.isAbsent) = none := by
    rw [List.find?_eq_none]
    intro e he habsent
    obtain ⟨i, hi⟩ := List.mem_iff_getElem?.mp he
    obtain ⟨hf, hd'⟩ := List.getElem?_zip_eq_some.mp hi
    rw [Bool.and_eq_true, Bool.not_eq_true'] at habsent
    obtain ⟨d, hd, hpresent⟩ := hm.present i e.1 hf habsent.1
    obtain ⟨x, hx, hrestores⟩ := h.data i e.1 d hf hd
    obtain rfl := Option.some.inj (hd'.symm.trans hx)
    rw [hrestores.isAbsent, hpresent] at habsent
    cases habsent.2
  have hgeometries :
      (s.geometryFields.zip r'.geometries).find? (fun e => !e.1.nullable && e.2.isNone) = none := by
    rw [List.find?_eq_none]
    intro e he hnone
    obtain ⟨i, hi⟩ := List.mem_iff_getElem?.mp he
    obtain ⟨hg, hx⟩ := List.getElem?_zip_eq_some.mp hi
    rw [Bool.and_eq_true, Bool.not_eq_true'] at hnone
    obtain ⟨x, hsome⟩ := hm.shaped i e.1 hg hnone.1
    rw [h.geometries, hsome] at hx
    rw [← Option.some.inj hx] at hnone
    cases hnone.2
  simp only [missingField?, hdata, hgeometries]
  rfl

theorem duplicateField?_restored (hs : t.Sound) (he : (k, r) ∈ t.records.entries)
    (ht : r.Typed t.schema) (h : r.Restored t.schema r')
    (hu : ∀ f ∈ t.schema.fields, f.unique = true → f.subkind ≠ .boolean) :
    t.duplicateField? r' = none := by
  rw [duplicateField?, Option.map_eq_none_iff, List.find?_eq_none]
  rintro ⟨⟨f, d'⟩, i⟩ hmem hdup
  obtain ⟨hf, hd'⟩ : t.schema.fields[i]? = some f ∧ r'.data[i]? = some d' :=
    List.getElem?_zip_eq_some.mp (List.mem_zipIdx_iff_getElem?.mp hmem)
  obtain ⟨hi, -⟩ := List.getElem?_eq_some_iff.mp hf
  obtain ⟨d, hd⟩ : ∃ d, r.data[i]? = some d :=
    ⟨_, List.getElem?_eq_getElem (by rwa [ht.length_data])⟩
  obtain ⟨x, hx, hrestores⟩ := h.data i f d hf hd
  obtain rfl := Option.some.inj (hd'.symm.trans hx)
  simp only [Bool.and_eq_true, Bool.not_eq_true', List.any_eq_true, bne_iff_ne, ne_eq,
    Option.any_eq_true] at hdup
  obtain ⟨⟨hunique, hpresent⟩, other, hother, hfid, y, hy, hsame⟩ := hdup
  rw [hrestores.isAbsent] at hpresent
  rw [hrestores.same (hu f (List.mem_of_getElem? hf) hunique) hpresent] at hsame
  -- the record itself is unlike every other in a unique field
  obtain ⟨e, heo, rfl⟩ := FidMap.mem_values.mp hother
  have hne : e.1 ≠ k := by
    intro hek
    rw [hs.keyed e heo, h.fid, hs.keyed _ he] at hfid
    exact hfid (congrArg some hek)
  have hdiffer : y.same d = false := by
    by_cases ha : y.isAbsent = true
    · exact Datum.same_of_isAbsent ha hpresent
    · exact hs.differ e heo _ he hne i f y _ hf hunique hy hd (by simpa using ha) hpresent
  rw [hdiffer] at hsame
  cases hsame

theorem zipWith_fill_restored (ht : r.Typed t.schema) (h : r.Restored t.schema r') :
    List.zipWith fill t.schema.fields r'.data = r'.data := by
  have hlen : r'.data.length = t.schema.fields.length := h.length_data.trans ht.length_data
  refine List.ext_getElem (by simp [hlen]) fun i hi hi' => ?_
  have hf := List.getElem?_eq_getElem (l := t.schema.fields) (by omega : i < _)
  have hd := List.getElem?_eq_getElem (l := r.data) (by rw [← h.length_data]; exact hi')
  obtain ⟨d', hd', hrestores⟩ := h.data i _ _ hf hd
  obtain ⟨_, hget⟩ := List.getElem?_eq_some_iff.mp hd'
  rw [List.getElem_zipWith, hget]
  cases d' with
  | unset => exact absurd rfl hrestores.stated
  | _ => rfl

theorem replace_restored (hs : t.Sound) (he : (k, r) ∈ t.records.entries) (ht : r.Typed t.schema)
    (h : r.Restored t.schema r')
    (hu : ∀ f ∈ t.schema.fields, f.unique = true → f.subkind ≠ .boolean) :
    t.replace r' = .ok (k, t.put k r') := by
  have hfid : r'.fid = some k := h.fid.trans (hs.keyed _ he)
  have hin : t.records.contains k = true := FidMap.contains_iff.mpr ⟨_, he, rfl⟩
  have hshape : ¬(r'.data.length ≠ t.schema.fields.length ∨
      r'.geometries.length ≠ t.schema.geometryFields.length) := by
    rw [h.length_data, h.geometries, ht.length_data, ht.length_geometries]
    simp
  have hprepare : t.prepare r' = .ok r' := by
    rw [prepare, if_neg hshape]
    simp only [zipWith_fill_restored ht h, missingField?_restored (hs.meets _ he) h,
      duplicateField?_restored hs he ht h hu]
  rw [replace, hfid]
  simp only [Option.getD_some, hin, if_true, hprepare]
  rfl

def decoded (t : FeatureTable) (p : ReadPlan) (codec : GeometryCodec) (options : ReadOptions) :
    List (Int × Except Error (List Value)) :=
  t.records.entries.map fun e => (e.1, p.decode codec options e.2)

variable {p : ReadPlan} {codec : GeometryCodec} {options : ReadOptions}

theorem fids_of_decoded (h : t'.decoded p codec options = t.decoded p codec options) :
    t'.records.fids = t.records.fids := by
  have := congrArg (List.map (·.1)) h
  rw [decoded, decoded, List.map_map, List.map_map] at this
  exact this

theorem decoded_put (hs : t.Sound) (he : (k, r) ∈ t.records.entries) (hfid : r'.fid = r.fid)
    (h : p.decode codec options r' = p.decode codec options r) :
    (t.put k r').decoded p codec options = t.decoded p codec options := by
  have hr' : { r' with fid := some k } = r' := by
    rw [← hs.keyed _ he, ← hfid]
  have hentries : (t.put k r').records.entries =
      t.records.entries.map fun e => if e.1 = k then (k, { r' with fid := some k }) else e :=
    FidMap.insertEntry_of_mem t.records.sorted ⟨_, he, rfl⟩
  rw [decoded, decoded, hentries, List.map_map]
  refine List.map_congr_left fun e hm => ?_
  simp only [Function.comp]
  split
  next hk =>
    obtain rfl := FidMap.eq_of_fid_eq hm he hk
    simp only [hr', h]
  next => rfl

end FeatureTable

namespace View

/-- The view shows all of every record. -/
structure Unlimited (v : View) : Prop where
  predicate : v.predicate = none
  spatial : v.spatial = none
  ignored : v.ignored = .none

variable {t t' : FeatureTable} {v : View} {p : ReadPlan} {codec : GeometryCodec}
  {options : ReadOptions}

theorem Unlimited.admits (h : v.Unlimited) (r : Record) : v.admits r = true := by
  rw [View.admits, h.predicate, h.spatial]
  rfl

theorem Unlimited.project (h : v.Unlimited) (r : Record) : v.project r = r := by
  rw [View.project, h.ignored]
  rfl

theorem Unlimited.next_eq (h : v.Unlimited)
    (ht : t'.decoded p codec options = t.decoded p codec options) :
    (v.next t').1.map (p.decode codec options) = (v.next t).1.map (p.decode codec options) ∧
      (v.next t').2 = (v.next t).2 := by
  have hlast : t'.records.lastFid? = t.records.lastFid? := by
    rw [FidMap.lastFid?, FeatureTable.fids_of_decoded ht]
    rfl
  have hafter : (t'.records.after v.position).map (fun e => (e.1, p.decode codec options e.2)) =
      (t.records.after v.position).map (fun e => (e.1, p.decode codec options e.2)) := by
    cases v.position with
    | none => exact ht
    | some k =>
      have := congrArg (List.filter fun e => decide (k < e.1)) ht
      rw [FeatureTable.decoded, FeatureTable.decoded, List.filter_map, List.filter_map] at this
      exact this
  have hfirst : ∀ es : List (Int × Record), (es.find? fun e => v.admits e.2) = es.head? := by
    intro es
    cases es with
    | nil => rfl
    | cons e es => rw [List.find?_cons, h.admits]; rfl
  unfold View.next
  rw [hfirst, hfirst]
  cases hes : t.records.after v.position with
  | nil =>
    rw [hes, List.map_nil, List.map_eq_nil_iff] at hafter
    rw [hafter]
    simp [hlast]
  | cons e es =>
    rw [hes, List.map_cons, List.map_eq_cons_iff] at hafter
    obtain ⟨e', es', hes', he, -⟩ := hafter
    rw [hes']
    simp only [Prod.mk.injEq] at he
    simp [h.project, he.1, he.2]

end View

end FeatureLayer
