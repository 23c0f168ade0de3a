import FeatureLayer.Proofs.OverlayLaws
import FeatureLayer.Proofs.Text
/-!
What overlays do with attributes. A result without definitions gets the fields of the input, and those
of the method whose names are free. Values go to fields by their names, those of the method last, so
that a field of the method whose name is taken still gives its value to the field that has the name.
-/

namespace FeatureLayer

namespace Overlay

variable {kind : OverlayKind} {o : Options} {input method fs : List Field} {f g : Field}

/-! ### The fields of a result -/

def Distinct (fs : List Field) : Prop := fs.Pairwise fun f g => Text.sameWord f.name g.name = false

instance (fs : List Field) : Decidable (Distinct fs) :=
  inferInstanceAs (Decidable (fs.Pairwise fun f g => Text.sameWord f.name g.name = false))

theorem Distinct.eq_of_sameWord (h : Distinct fs) {i j : Nat} (hf : fs[i]? = some f)
    (hg : fs[j]? = some g) (hname : Text.sameWord f.name g.name = true) : i = j := by
  obtain ⟨hi, rfl⟩ := List.getElem?_eq_some_iff.mp hf
  obtain ⟨hj, rfl⟩ := List.getElem?_eq_some_iff.mp hg
  have hapart := List.pairwise_iff_getElem.mp h
  rcases Nat.lt_trichotomy i j with hlt | rfl | hlt
  · rw [hapart i j hi hj hlt] at hname
    cases hname
  · rfl
  · rw [Text.sameWord_comm, hapart j i hj hi hlt] at hname
    cases hname

theorem Distinct.findIdx?_hasName (h : Distinct fs) {i : Nat} {name : String} (hf : fs[i]? = some f)
    (hname : Text.sameWord f.name name = true) : fs.findIdx? (hasName name) = some i := by
  cases hfind : fs.findIdx? (hasName name) with
  | none =>
    have hnone := List.findIdx?_eq_none_iff.mp hfind f (List.mem_of_getElem? hf)
    rw [hasName, hname] at hnone
    cases hnone
  | some j =>
    obtain ⟨hj, hfirst, -⟩ := List.findIdx?_eq_some_iff_getElem.mp hfind
    rw [h.eq_of_sameWord (List.getElem?_eq_getElem hj) hf
      (Text.sameWord_trans hfirst (Text.sameWord_comm f.name name ▸ hname))]

def Options.clash (o : Options) (f g : Field) : Bool :=
  Text.sameWord (o.inputPrefix ++ f.name) (o.methodPrefix ++ g.name)

def free (o : Options) (input method : List Field) : List Field :=
  method.filter fun g => !input.any (o.clash · g)

theorem any_hasName_map_resultField (o : Options) (input : List Field) (g : Field) :
    (input.map (resultField o.inputPrefix)).any (hasName (resultField o.methodPrefix g).name) =
      input.any (o.clash · g) := by
  rw [List.any_map]
  rfl

theorem foldl_free (input : List Field) (hm : Distinct method) (taken : List Field)
    (htaken : ∀ f ∈ taken, ∀ g ∈ method, hasName (resultField o.methodPrefix g).name f = false) :
    method.foldl (fun fs f =>
        let f := resultField o.methodPrefix f
        if fs.any (hasName f.name) then fs else fs ++ [f])
        (input.map (resultField o.inputPrefix) ++ taken) =
      input.map (resultField o.inputPrefix) ++
        (taken ++ (free o input method).map (resultField o.methodPrefix)) := by
  induction method generalizing taken with
  | nil => rw [List.foldl_nil, free, List.filter_nil, List.map_nil, List.append_nil]
  | cons g method ih =>
    obtain ⟨hg, hm⟩ := List.pairwise_cons.mp hm
    have hothers : taken.any (hasName (resultField o.methodPrefix g).name) = false :=
      List.any_eq_false.mpr fun f hf => by
        rw [htaken f hf g List.mem_cons_self]
        exact Bool.false_ne_true
    rw [List.foldl_cons]
    simp only [List.any_append, hothers, any_hasName_map_resultField, Bool.or_false]
    cases hclash : input.any (o.clash · g) with
    | true =>
      rw [if_pos rfl, ih hm taken fun f hf h hh => htaken f hf h (List.mem_cons_of_mem g hh), free,
        free, List.filter_cons_of_neg (by simp [hclash])]
    | false =>
      rw [if_neg Bool.false_ne_true, List.append_assoc, ih hm, free, free,
        List.filter_cons_of_pos (by simp [hclash]), List.map_cons, List.append_assoc,
        List.singleton_append]
      intro f hf h hh
      rcases List.mem_append.mp hf with hf | hf
      · exact htaken f hf h (List.mem_cons_of_mem g hh)
      · rw [List.mem_singleton.mp hf]
        exact (Text.sameWord_append_left _ _ _).trans (hg h hh)

theorem resultFields_eq (hkind : kind.joinsAttributes = true) (hm : Distinct method) :
    resultFields kind o input method =
      input.map (resultField o.inputPrefix) ++ (free o input method).map (resultField o.methodPrefix) := by
  have hfields := foldl_free (o := o) input hm [] fun f hf => absurd hf List.not_mem_nil
  rw [List.append_nil, List.nil_append] at hfields
  rw [resultFields, if_pos hkind]
  exact hfields

theorem free_apart (hg : g ∈ free o input method) (hf : f ∈ input) : o.clash f g = false := by
  have hfree := (List.mem_filter.mp hg).2
  rw [Bool.not_eq_true', List.any_eq_false] at hfree
  exact Bool.eq_false_iff.mpr (hfree f hf)

/-- The fields of a result have distinct names. First are those of the input, each in its place, then
those of the method whose names are free. -/
structure LaidOut (o : Options) (input method fs : List Field) : Prop where
  distinct : Distinct fs
  length : fs.length = input.length + (free o input method).length
  own : ∀ (k : Nat) (f : Field), input[k]? = some f → fs[k]? = some (resultField o.inputPrefix f)
  joined : ∀ (k : Nat) (g : Field), (free o input method)[k]? = some g →
    fs[input.length + k]? = some (resultField o.methodPrefix g)

theorem Distinct.map_resultField (h : Distinct fs) (before : String) :
    Distinct (fs.map (resultField before)) :=
  List.pairwise_map.mpr (h.imp fun hname => (Text.sameWord_append_left _ _ _).trans hname)

theorem laidOut_resultFields (hkind : kind.joinsAttributes = true) (hi : Distinct input)
    (hm : Distinct method) : LaidOut o input method (resultFields kind o input method) := by
  rw [resultFields_eq hkind hm]
  refine ⟨?_, by simp, fun k f hf => ?_, fun k g hg => ?_⟩
  · refine List.pairwise_append.mpr ⟨hi.map_resultField _,
      Distinct.map_resultField (hm.sublist List.filter_sublist) _, fun f' hf' g' hg' => ?_⟩
    obtain ⟨f, hf, rfl⟩ := List.mem_map.mp hf'
    obtain ⟨g, hg, rfl⟩ := List.mem_map.mp hg'
    exact free_apart hg hf
  · have hlt := (List.getElem?_eq_some_iff.mp hf).1
    rw [List.getElem?_append_left (by rwa [List.length_map]), List.getElem?_map, hf, Option.map_some]
  · rw [List.getElem?_append_right (by simp), List.length_map, Nat.add_sub_cancel_left,
      List.getElem?_map, hg, Option.map_some]

/-! ### Where values go -/

variable {source result : List Field} {before : String} {i j k q : Nat}

theorem getElem?_targets :
    (targets before source result)[j]? =
      source[j]?.map fun f => result.findIdx? (hasName (before ++ f.name)) := List.getElem?_map

theorem sameWord_of_target (h : (targets before source result)[j]? = some (some q)) :
    ∃ f g, source[j]? = some f ∧ result[q]? = some g ∧
      Text.sameWord g.name (before ++ f.name) = true := by
  rw [getElem?_targets] at h
  obtain ⟨f, hf, h⟩ := Option.map_eq_some_iff.mp h
  obtain ⟨hq, hname, -⟩ := List.findIdx?_eq_some_iff_getElem.mp h
  exact ⟨f, result[q], hf, List.getElem?_eq_getElem hq, hname⟩

/-- Values of fields with distinct names go to different fields. -/
theorem Distinct.target_inj (h : Distinct source)
    (hj : (targets before source result)[j]? = some (some q))
    (hk : (targets before source result)[k]? = some (some q)) : j = k := by
  obtain ⟨f, e, hf, he, hname⟩ := sameWord_of_target hj
  obtain ⟨g, e', hg, he', hname'⟩ := sameWord_of_target hk
  obtain rfl := Option.some.inj (he.symm.trans he')
  rw [Text.sameWord_comm] at hname
  refine h.eq_of_sameWord hf hg ?_
  rw [← Text.sameWord_append_left before]
  exact Text.sameWord_trans hname hname'

theorem Distinct.target_of_sameWord (h : Distinct result) (hf : source[j]? = some f)
    (hg : result[q]? = some g) (hname : Text.sameWord g.name (before ++ f.name) = true) :
    (targets before source result)[j]? = some (some q) := by
  rw [getElem?_targets, hf, Option.map_some, h.findIdx?_hasName hg hname]

theorem place_of_untouched {data : List Datum} {pairs : List (Datum × Option Nat)}
    (h : ∀ e ∈ pairs, e.2 ≠ some q) : (place data pairs)[q]? = data[q]? := by
  induction pairs generalizing data with
  | nil => rfl
  | cons e pairs ih =>
    obtain ⟨he, hrest⟩ := List.forall_mem_cons.mp h
    obtain ⟨d, _ | i⟩ := e
    · exact ih hrest
    · rw [place, ih hrest, List.getElem?_set_ne fun hi => he (congrArg some hi)]

theorem place_of_target {data : List Datum} {pairs : List (Datum × Option Nat)} {d : Datum}
    (h : pairs[j]? = some (d, some q)) (hone : ∀ k e, pairs[k]? = some e → e.2 = some q → k = j)
    (hq : q < data.length) : (place data pairs)[q]? = some d := by
  induction pairs generalizing data j with
  | nil => cases h
  | cons e pairs ih =>
    cases j with
    | zero =>
      obtain rfl := Option.some.inj h
      rw [place, place_of_untouched, List.getElem?_set_self hq]
      intro e he htarget
      obtain ⟨k, hk⟩ := List.mem_iff_getElem?.mp he
      cases hone (k + 1) e hk htarget
    | succ j =>
      have hrest : ∀ k e, pairs[k]? = some e → e.2 = some q → k = j := fun k e hk htarget =>
        Nat.succ.inj (hone (k + 1) e hk htarget)
      obtain ⟨d', _ | i⟩ := e
      · exact ih h hrest hq
      · exact ih h hrest (hq.trans_eq List.length_set.symm)

/-- What a part has for the field in that place, if it has anything. -/
def valueAt (part : Option Part) (j : Nat) : Option Datum := part.bind (·.data[j]?)

variable {part : Option Part} {ts : List (Option Nat)} {data : List Datum}

theorem placePart_of_untouched (h : ∀ j, ts[j]? = some (some q) → valueAt part j = none) :
    (placePart part ts data)[q]? = data[q]? := by
  cases part with
  | none => rfl
  | some p =>
    refine place_of_untouched fun e he htarget => ?_
    obtain ⟨j, hj⟩ := List.mem_iff_getElem?.mp he
    obtain ⟨hd, ht⟩ := List.getElem?_zip_eq_some.mp hj
    have hnone : p.data[j]? = none := h j (htarget ▸ ht)
    cases hd.symm.trans hnone

theorem placePart_of_target {d : Datum} (ht : ts[j]? = some (some q))
    (hone : ∀ k, ts[k]? = some (some q) → k = j) (hd : valueAt part j = some d) (hq : q < data.length) :
    (placePart part ts data)[q]? = some d := by
  cases part with
  | none => cases hd
  | some p =>
    refine place_of_target (j := j) (List.getElem?_zip_eq_some.mpr ⟨hd, ht⟩) (fun k e hk htarget => ?_) hq
    exact hone k (htarget ▸ (List.getElem?_zip_eq_some.mp hk).2)

theorem placePart_getD (ht : ts[j]? = some (some q)) (hone : ∀ k, ts[k]? = some (some q) → k = j)
    (hdata : data[q]? = some .unset) :
    (placePart part ts data)[q]? = some ((valueAt part j).getD .unset) := by
  cases hd : valueAt part j with
  | none =>
    rw [placePart_of_untouched fun k hk => (hone k hk ▸ hd :), hdata]
    rfl
  | some d => exact placePart_of_target ht hone hd (List.getElem?_eq_some_iff.mp hdata).1

namespace LaidOut

variable (h : LaidOut o input method fs)
include h

theorem target_own (hf : input[k]? = some f) : (targets o.inputPrefix input fs)[k]? = some (some k) :=
  h.distinct.target_of_sameWord hf (h.own k f hf) (Text.sameWord_refl _)

theorem target_clash (hf : input[k]? = some f) (hg : method[j]? = some g) (hclash : o.clash f g = true) :
    (targets o.methodPrefix method fs)[j]? = some (some k) :=
  h.distinct.target_of_sameWord hg (h.own k f hf) hclash

theorem clash_of_target (hf : input[k]? = some f)
    (ht : (targets o.methodPrefix method fs)[j]? = some (some k)) :
    ∃ g, method[j]? = some g ∧ o.clash f g = true := by
  obtain ⟨g, e, hg, he, hname⟩ := sameWord_of_target ht
  obtain rfl := Option.some.inj ((h.own k f hf).symm.trans he)
  exact ⟨g, hg, hname⟩

theorem target_joined (hg : (free o input method)[k]? = some g) (hj : method[j]? = some g) :
    (targets o.methodPrefix method fs)[j]? = some (some (input.length + k)) :=
  h.distinct.target_of_sameWord hj (h.joined k g hg) (Text.sameWord_refl _)

theorem not_target_joined : (targets o.inputPrefix input fs)[i]? ≠ some (some (input.length + k)) := by
  intro ht
  obtain ⟨f, -, hf, -⟩ := sameWord_of_target ht
  have hlt := (List.getElem?_eq_some_iff.mp hf).1
  have hsame := (h.target_own hf).symm.trans ht
  simp only [Option.some.injEq] at hsame
  omega

end LaidOut

/-! ### What the record of a piece holds -/

def valuesFor (o : Options) (input method fs : List Field) (p : Piece) : List Datum :=
  placePart p.method (targets o.methodPrefix method fs)
    (placePart p.input (targets o.inputPrefix input fs) (List.replicate fs.length .unset))

theorem length_valuesFor (p : Piece) : (valuesFor o input method fs p).length = fs.length := by
  rw [valuesFor, length_placePart, length_placePart, List.length_replicate]

section Values

variable {p : Piece} (h : LaidOut o input method fs)
include h

theorem valuesFor_own (hi : Distinct input) (hf : input[k]? = some f)
    (hnone : ∀ (j : Nat) (g : Field), method[j]? = some g → o.clash f g = true →
      valueAt p.method j = none) :
    (valuesFor o input method fs p)[k]? = some ((valueAt p.input k).getD .unset) := by
  have hlt := (List.getElem?_eq_some_iff.mp (h.own k f hf)).1
  have htarget := h.target_own hf
  rw [valuesFor, placePart_of_untouched fun j hj => ?_]
  · exact placePart_getD htarget (fun j hj => hi.target_inj hj htarget) (List.getElem?_replicate_of_lt hlt)
  · obtain ⟨g, hg, hclash⟩ := h.clash_of_target hf hj
    exact hnone j g hg hclash

theorem valuesFor_overwritten (hm : Distinct method) (hf : input[k]? = some f)
    (hg : method[j]? = some g) (hclash : o.clash f g = true) {d : Datum}
    (hd : valueAt p.method j = some d) : (valuesFor o input method fs p)[k]? = some d := by
  have htarget := h.target_clash hf hg hclash
  refine placePart_of_target htarget (fun j' hj' => hm.target_inj hj' htarget) hd ?_
  rw [length_placePart, List.length_replicate]
  exact (List.getElem?_eq_some_iff.mp (h.own k f hf)).1

theorem valuesFor_joined (hm : Distinct method) (hg : (free o input method)[k]? = some g)
    (hj : method[j]? = some g) :
    (valuesFor o input method fs p)[input.length + k]? = some ((valueAt p.method j).getD .unset) := by
  have htarget := h.target_joined hg hj
  refine placePart_getD htarget (fun j' hj' => hm.target_inj hj' htarget) ?_
  rw [placePart_of_untouched fun i hi => absurd hi h.not_target_joined]
  exact List.getElem?_replicate_of_lt (List.getElem?_eq_some_iff.mp (h.joined k g hg)).1

end Values

/-- What a record of the result has from a piece: the polygons; at the fields of the input the values of
the input, but those of the method's fields of the same names, if the piece has any; and after them, at
the free fields of the method, those of the method. What is left out has the fallback of its field. -/
structure Carries (o : Options) (input method : List Field) (p : Piece) (r : Record) : Prop where
  geometry : r.geometries.head? = some (some (shape o.promoteToMulti p.polygons))
  length : r.data.length = input.length + (free o input method).length
  own : ∀ (k : Nat) (f : Field), input[k]? = some f →
    (∀ (j : Nat) (g : Field), method[j]? = some g → o.clash f g = true → valueAt p.method j = none) →
    r.data[k]? = some (FeatureTable.fill f ((valueAt p.input k).getD .unset))
  overwritten : ∀ (k : Nat) (f : Field) (j : Nat) (g : Field) (d : Datum), input[k]? = some f →
    method[j]? = some g → o.clash f g = true → valueAt p.method j = some d →
    r.data[k]? = some (FeatureTable.fill f d)
  joined : ∀ (k j : Nat) (g : Field), (free o input method)[k]? = some g → method[j]? = some g →
    r.data[input.length + k]? = some (FeatureTable.fill g ((valueAt p.method j).getD .unset))

theorem fill_resultField (before : String) (f : Field) (d : Datum) :
    FeatureTable.fill (resultField before f) d = FeatureTable.fill f d := by
  cases d <;> rfl

theorem methodTargets_of_joins (hkind : kind.joinsAttributes = true) (source result : List Field) :
    methodTargets kind o source result = targets o.methodPrefix source result := by
  cases kind <;> first | rfl | cases hkind

theorem head?_geometries_record {s : Schema} (hs : s.geometryFields ≠ []) (promote : Bool)
    (fromInput fromMethod : List (Option Nat)) (p : Piece) :
    (record promote s fromInput fromMethod p).geometries.head? =
      some (some (shape promote p.polygons)) := by
  obtain ⟨g, gs, hg⟩ := List.exists_cons_of_ne_nil hs
  simp only [record, Record.blank, hg, List.length_cons, List.replicate_succ, List.set_cons_zero,
    List.head?_cons]
  rfl

theorem carries_filled (hkind : kind.joinsAttributes = true) (hi : Distinct input)
    (hm : Distinct method) {t : FeatureTable} (h : LaidOut o input method t.schema.fields)
    (ht : t.schema.geometryFields ≠ []) (fid : Int) (p : Piece) :
    Carries o input method p (t.filled fid (record o.promoteToMulti t.schema
      (targets o.inputPrefix input t.schema.fields) (methodTargets kind o method t.schema.fields) p)) := by
  rw [methodTargets_of_joins hkind]
  have hgeometry := head?_geometries_record ht o.promoteToMulti
    (targets o.inputPrefix input t.schema.fields) (targets o.methodPrefix method t.schema.fields) p
  generalize hr : record o.promoteToMulti t.schema _ _ p = r at hgeometry ⊢
  have hdata : r.data = valuesFor o input method t.schema.fields p := by
    rw [← hr]
    rfl
  have hfilled : ∀ {q : Nat} {before : String} {e : Field} {d : Datum},
      t.schema.fields[q]? = some (resultField before e) →
      (valuesFor o input method t.schema.fields p)[q]? = some d →
      (t.filled fid r).data[q]? = some (FeatureTable.fill e d) := fun he hd => by
    rw [← fill_resultField]
    exact List.getElem?_zipWith_eq_some.mpr ⟨_, _, he, hdata ▸ hd, rfl⟩
  constructor
  case geometry => exact hgeometry
  case length => simp [FeatureTable.filled, hdata, length_valuesFor, h.length]
  case own => exact fun k f hf hnone => hfilled (h.own k f hf) (valuesFor_own h hi hf hnone)
  case overwritten =>
    exact fun k f j g d hf hg hclash hd =>
      hfilled (h.own k f hf) (valuesFor_overwritten h hm hf hg hclash hd)
  case joined => exact fun k j g hg hj => hfilled (h.joined k g hg) (valuesFor_joined h hm hg hj)

end Overlay

/-! ### Writing in order -/

/-- The table after records were added in that order under these identifiers. -/
structure FeatureTable.Adds (t t' : FeatureTable) (fids : List Int) (rs : List Record) : Prop where
  schema : t'.schema = t.schema
  nodup : fids.Nodup
  added : ∀ (j : Nat) (fid : Int), fids[j]? = some fid → ∃ r, rs[j]? = some r ∧
    t.records.find? fid = none ∧ t'.records.find? fid = some (t.filled fid r)
  kept : ∀ fid ∉ fids, t'.records.find? fid = t.records.find? fid

theorem FeatureTable.Adds.nothing (t : FeatureTable) (rs : List Record) : t.Adds t [] rs where
  schema := rfl
  nodup := .nil
  added j _ h := by cases j <;> cases h
  kept _ _ := rfl

namespace Overlay

theorem adds_writeAll {t : FeatureTable} (hc : t.Counted) (v : View) (rs : List Record) :
    ∃ fids, t.Adds (writeAll t v rs).2.2 fids rs ∧
      ((writeAll t v rs).1 = .ok () → fids.length = rs.length) := by
  induction rs generalizing t v with
  | nil => exact ⟨[], .nothing t _, fun _ => rfl⟩
  | cons r rs ih =>
    rcases View.write_cases t v .sequentialWrite "OGR_L_CreateFeature" (·.insert r) with
      ⟨e, d, hw⟩ | ⟨fid, t₁, -, hinsert, hw⟩
    · rw [writeAll, show v.create t r = _ from hw]
      exact ⟨[], .nothing t _, fun h => by cases h⟩
    · rw [writeAll, show v.create t r = _ from hw]
      obtain ⟨-, habsent, rfl⟩ := FeatureTable.storing_of_insert hc hinsert
      obtain ⟨fids, hadds, hlength⟩ := ih ((FeatureTable.Change.insert hinsert).counted hc) v
      have hnew : ∀ k ∈ fids, k ≠ fid ∧ t.records.find? k = none := by
        intro k hk
        obtain ⟨j, hj⟩ := List.mem_iff_getElem?.mp hk
        obtain ⟨-, -, hnone, -⟩ := hadds.added j k hj
        rw [FeatureTable.find?_storing] at hnone
        split at hnone
        · cases hnone
        next hne => exact ⟨hne, hnone⟩
      have hfirst : fid ∉ fids := fun h => (hnew fid h).1 rfl
      refine ⟨fid :: fids, ⟨hadds.schema, List.nodup_cons.mpr ⟨hfirst, hadds.nodup⟩, ?_, ?_⟩,
        fun h => congrArg Nat.succ (hlength h)⟩
      · intro j k hk
        cases j with
        | zero =>
          obtain rfl := Option.some.inj hk
          refine ⟨r, rfl, habsent, ?_⟩
          rw [hadds.kept fid hfirst, FeatureTable.find?_storing, if_pos rfl]
        | succ j =>
          obtain ⟨r', hr', -, hfound⟩ := hadds.added j k hk
          exact ⟨r', hr', (hnew k (List.mem_of_getElem? hk)).2, hfound⟩
      · intro k hk
        rw [List.mem_cons, not_or] at hk
        rw [hadds.kept k hk.2, FeatureTable.find?_storing, if_neg hk.1]

/-! ### What an overlay leaves behind -/

/-- A table without fields after an overlay into it that joins attributes. It has the fields of the input
and those of the method whose names are free; there is a new record for each of the first pieces, which
carries its values; and all else is as before. -/
structure Joined (A : RegionAlgebra) (kind : OverlayKind) (o : Options) (input method : List Field)
    (inputs methods : List Part) (before after : FeatureTable) (fids : List Int) : Prop where
  fields : after.schema.fields =
    input.map (resultField o.inputPrefix) ++ (free o input method).map (resultField o.methodPrefix)
  nodup : fids.Nodup
  added : ∀ (j : Nat) (fid : Int), fids[j]? = some fid → before.records.find? fid = none ∧
    ∃ p r, (written A kind inputs methods)[j]? = some p ∧ after.records.find? fid = some r ∧
      Carries o input method p r
  kept : ∀ fid ∉ fids, after.records.find? fid = before.records.find? fid

theorem schema_prepare_of_bare {t : FeatureTable} (ht : t.schema.fields = []) (kind : OverlayKind)
    (o : Options) (input method : List Field) :
    (prepare kind o input method t).schema.fields = resultFields kind o input method := by
  simp [prepare, ht]

theorem geometryFields_prepare_ne_nil (kind : OverlayKind) (o : Options) (input method : List Field)
    (t : FeatureTable) : (prepare kind o input method t).schema.geometryFields ≠ [] := by
  simp only [prepare]
  split
  next => exact List.cons_ne_nil _ _
  next h => simpa using h

theorem joined_of_adds {A : RegionAlgebra} {inputs methods : List Part} {before after : FeatureTable}
    {records : List Record} {fids : List Int} (hkind : kind.joinsAttributes = true)
    (hi : Distinct input) (hm : Distinct method) (hbefore : before.schema.fields = [])
    (hfirst : records <+: recordsFor A kind o input method
      (prepare kind o input method before).schema inputs methods)
    (h : (prepare kind o input method before).Adds after fids records) :
    Joined A kind o input method inputs methods before after fids := by
  have hgeometry := geometryFields_prepare_ne_nil kind o input method before
  have hlaid : LaidOut o input method (prepare kind o input method before).schema.fields := by
    rw [schema_prepare_of_bare hbefore]
    exact laidOut_resultFields hkind hi hm
  refine ⟨?_, h.nodup, fun j fid hfid => ?_, h.kept⟩
  · rw [h.schema, schema_prepare_of_bare hbefore, resultFields_eq hkind hm]
  obtain ⟨r, hr, hnone, hfound⟩ := h.added j fid hfid
  obtain ⟨rest, hrest⟩ := hfirst
  have hrecord : (records ++ rest)[j]? = some r :=
    (List.getElem?_append_left (List.getElem?_eq_some_iff.mp hr).1).trans hr
  rw [hrest, recordsFor, List.getElem?_map] at hrecord
  obtain ⟨p, hp, rfl⟩ := Option.map_eq_some_iff.mp hrecord
  exact ⟨hnone, p, _, hp, hfound, carries_filled hkind hi hm hlaid hgeometry fid p⟩

/-- An overlay that joins attributes leaves the store alone, or joins them into the table of the result,
for all pieces if it succeeds. -/
theorem run_joins {s : Store} {input method result : View}
    (hcounted : result.writable = true → (s.table result.table).Counted)
    (hlt : result.table < s.tables.length) (hkind : kind.joinsAttributes = true)
    (hi : Distinct (s.table input.table).schema.fields)
    (hm : Distinct (s.table method.table).schema.fields)
    (hr : (s.table result.table).schema.fields = []) (A : RegionAlgebra) (o : Options)
    (answer : Nat → Bool) :
    let out := run A kind s input method result o answer
    out.store = s ∧ out.value ≠ .ok () ∨ ∃ inputs methods fids,
      collect kind o.skipFailures (input.selected (s.table input.table)) = .ok inputs ∧
      collect kind o.skipFailures (method.selected (s.table method.table)) = .ok methods ∧
      Joined A kind o (s.table input.table).schema.fields (s.table method.table).schema.fields
        inputs methods (s.table result.table) (out.store.table result.table) fids ∧
      (out.value = .ok () → fids.length = (written A kind inputs methods).length) := by
  intro out
  rcases run_cases A kind s input method result o answer with
    ⟨hstore, hvalue⟩ | ⟨hw, inputs, methods, records, hinputs, hmethods, hfirst, hstore, hvalue⟩
  · exact .inl ⟨hstore, fun hok => absurd (hvalue hok) (Nat.not_le_of_lt hlt)⟩
  · have hprepared : (prepare kind o (s.table input.table).schema.fields
        (s.table method.table).schema.fields (s.table result.table)).Counted := hcounted hw
    obtain ⟨fids, hadds, hlength⟩ := adds_writeAll hprepared result records
    have hafter := congrArg (·.table result.table) hstore
    simp only [Store.table_setTable, hlt, and_self, if_true] at hafter
    refine .inr ⟨inputs, methods, fids, hinputs, hmethods,
      joined_of_adds hkind hi hm hr hfirst (hafter ▸ hadds), fun hok => ?_⟩
    obtain ⟨hall, hdone⟩ := hvalue hok
    rw [hlength hdone, hall, recordsFor, List.length_map]
    rfl

end Overlay

end FeatureLayer
