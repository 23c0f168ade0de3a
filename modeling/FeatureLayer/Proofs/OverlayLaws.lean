import Mathlib.Algebra.Order.BigOperators.Group.List
import Mathlib.Algebra.Order.Group.Nat
import Mathlib.Data.List.Perm.Basic
import Mathlib.Data.Multiset.MapFold
import FeatureLayer.Proofs.Overlay
import FeatureLayer.Proofs.Store.Writing
/-!
Laws between the kinds of overlays. Written into tables that hold nothing, the same two views give the
same pieces under several kinds, whatever regions are and however they are cut.
-/

namespace FeatureLayer

/-! ### Tables that take every record of their shape -/

/-- Definitions that ask nothing of a record but its shape. -/
structure Schema.Lax (s : Schema) : Prop where
  fields : ∀ f ∈ s.fields, f.nullable = true ∧ f.unique = false
  geometryFields : ∀ g ∈ s.geometryFields, g.nullable = true

structure Record.Shaped (s : Schema) (r : Record) : Prop where
  fid : r.fid = none
  data : r.data.length = s.fields.length
  geometries : r.geometries.length = s.geometryFields.length

namespace FeatureTable

variable {t : FeatureTable} {r : Record}

theorem prepare_of_lax (ht : t.schema.Lax) (hr : r.Shaped t.schema) :
    t.prepare r = .ok { r with data := List.zipWith fill t.schema.fields r.data } := by
  have hpresent : ∀ r, missingField? t.schema r = none := fun r => by
    simp only [missingField?, Option.orElse_eq_orElse, Option.orElse_eq_or, Option.or_eq_none_iff,
      Option.map_eq_none_iff, List.find?_eq_none]
    refine ⟨fun e he => ?_, fun e he => ?_⟩
    · simp [(ht.fields e.1 (List.of_mem_zip he).1).1]
    · simp [ht.geometryFields e.1 (List.of_mem_zip he).1]
  have hdiffers : ∀ r, t.duplicateField? r = none := fun r => by
    simp only [duplicateField?, Option.map_eq_none_iff, List.find?_eq_none]
    intro e he
    have hfield := (List.of_mem_zip (List.fst_mem_of_mem_zipIdx he)).1
    simp [(ht.fields e.1.1 hfield).2]
  rw [prepare, if_neg (not_or.mpr ⟨not_not.mpr hr.data, not_not.mpr hr.geometries⟩)]
  simp only [hpresent, hdiffers]

theorem insert_of_lax (ht : t.schema.Lax) (hr : r.Shaped t.schema) (hroom : t.nextFid < maxFid) :
    t.insert r = .ok (t.nextFid, t.storing t.nextFid r) := by
  have hgiven : r.given? = none := by rw [Record.given?, hr.fid, Option.bind_none]
  have hnew : ({ r with data := List.zipWith fill t.schema.fields r.data } : Record).given? = none :=
    hgiven
  simp only [insert, prepare_of_lax ht hr, bind, Except.bind, hnew, Option.isSome_none,
    Bool.false_and, Bool.false_eq_true, if_false, Option.getD_none]
  rw [if_neg (by omega)]
  rfl

end FeatureTable

namespace Overlay

variable {A : RegionAlgebra} {kind : OverlayKind} {o : Options}

def content (s : Schema) (r : Record) : List (String × Datum) × Option Geometry :=
  ((s.fields.map (·.name)).zip r.data, r.geometries.head?.join)

def holdings (t : FeatureTable) : Multiset (List (String × Datum) × Option Geometry) :=
  ↑(t.records.values.map (content t.schema))

def taken (s : Schema) (r : Record) : List (String × Datum) × Option Geometry :=
  content s { r with data := List.zipWith FeatureTable.fill s.fields r.data }

theorem writeAll_of_lax {t : FeatureTable} {v : View} {rs : List Record} (ht : t.schema.Lax)
    (hcounted : t.Counted) (hwritable : v.writable = true)
    (hcan : t.capabilities.contains .sequentialWrite = true) (hshaped : ∀ r ∈ rs, r.Shaped t.schema)
    (hroom : t.nextFid + rs.length ≤ FeatureTable.maxFid) :
    ∃ t', writeAll t v rs = (.ok (), v, t') ∧
      holdings t' = holdings t + ↑(rs.map (taken t.schema)) := by
  induction rs generalizing t with
  | nil => exact ⟨t, rfl, (Multiset.add_zero _).symm⟩
  | cons r rs ih =>
    obtain ⟨hr, hrs⟩ := List.forall_mem_cons.mp hshaped
    rw [List.length_cons] at hroom
    have hinsert := FeatureTable.insert_of_lax ht hr (by omega)
    have hcreate : v.create t r = (.ok t.nextFid, v, t.storing t.nextFid r) := by
      simp only [View.create, View.write, hwritable, hcan, hinsert, Bool.not_true, Bool.false_eq_true,
        if_false]
    have hnext : (t.storing t.nextFid r).nextFid = t.nextFid + 1 :=
      Int.max_eq_right (by omega)
    obtain ⟨t', hwrite, hholds⟩ := ih (t := t.storing t.nextFid r) ht
      ((FeatureTable.Change.insert hinsert).counted hcounted) hcan hrs (by rw [hnext]; omega)
    refine ⟨t', by rw [writeAll, hcreate]; exact hwrite, ?_⟩
    have hfirst : holdings (t.storing t.nextFid r) = holdings t + ↑[taken t.schema r] := by
      rw [holdings, FeatureTable.storing, FidMap.values_insert_of_forall_lt hcounted, List.map_append]
      rfl
    rw [hholds, hfirst, Multiset.add_assoc, Multiset.coe_add]
    rfl

/-! ### Overlays into tables that hold nothing -/

/-- A view that may write to a table without definitions and records, as new. -/
structure Blank (s : Store) (v : View) : Prop where
  placed : v.table < s.tables.length
  writable : v.writable = true
  can : (s.table v.table).capabilities.contains .sequentialWrite = true
  schema : (s.table v.table).schema = .empty
  records : (s.table v.table).records = .empty
  nextFid : (s.table v.table).nextFid = 1

def resultSchema (kind : OverlayKind) (o : Options) (input method : List Field) : Schema :=
  ⟨resultFields kind o input method, [unknownGeometry]⟩

def feature (kind : OverlayKind) (o : Options) (input method : List Field) (p : Piece) :
    List (String × Datum) × Option Geometry :=
  let s := resultSchema kind o input method
  taken s (record o.promoteToMulti s (targets o.inputPrefix input s.fields)
    (methodTargets kind o method s.fields) p)

theorem schema_prepare_of_empty {t : FeatureTable} (h : t.schema = .empty) (kind : OverlayKind)
    (o : Options) (input method : List Field) :
    (prepare kind o input method t).schema = resultSchema kind o input method := by
  simp [prepare, h, Schema.empty, resultSchema]

theorem lax_resultSchema (kind : OverlayKind) (o : Options) (input method : List Field) :
    (resultSchema kind o input method).Lax where
  fields _ hf := lax_of_mem_resultFields hf
  geometryFields g hg := by
    rw [List.mem_singleton.mp hg]
    rfl

theorem length_place (data : List Datum) (pairs : List (Datum × Option Nat)) :
    (place data pairs).length = data.length := by
  induction pairs generalizing data with
  | nil => rfl
  | cons e pairs ih =>
    obtain ⟨d, _ | i⟩ := e
    · exact ih data
    · exact (ih _).trans List.length_set

theorem length_placePart (part : Option Part) (targets : List (Option Nat)) (data : List Datum) :
    (placePart part targets data).length = data.length := by
  cases part with
  | none => rfl
  | some p => exact length_place data _

theorem shaped_record (promote : Bool) (s : Schema) (fromInput fromMethod : List (Option Nat))
    (p : Piece) : (record promote s fromInput fromMethod p).Shaped s where
  fid := rfl
  data := by simp [record, length_placePart, Record.blank]
  geometries := by simp [record, Record.blank]

theorem length_pieces_le (A : RegionAlgebra) (kind : OverlayKind) (inputs methods : List Part) :
    (pieces A kind inputs methods).length < (inputs.length + 1) * (methods.length + 1) := by
  have hinputs : (inputs.flatMap (inputPieces A kind methods (cover A methods))).length ≤
      inputs.length * (methods.length + 1) := by
    rw [List.length_flatMap]
    refine (List.sum_le_card_nsmul _ (methods.length + 1) fun n hn => ?_).trans (by simp)
    obtain ⟨i, -, rfl⟩ := List.mem_map.mp hn
    cases kind <;> simp [inputPieces]
  have hmethods : (if kind.keepsMethod then
      methods.map (methodPiece A kind (cover A inputs)) else []).length ≤ methods.length := by
    split <;> simp
  rw [pieces, List.length_append]
  have hproduct := Nat.add_mul inputs.length 1 (methods.length + 1)
  omega

theorem length_collect_le {skip : Bool} {rs : List Record} {parts : List Part}
    (h : collect kind skip rs = .ok parts) : parts.length ≤ rs.length := by
  induction rs generalizing parts with
  | nil =>
    cases h
    exact Nat.le_refl 0
  | cons r rs ih =>
    unfold collect at h
    split at h
    · exact (ih h).trans (Nat.le_succ _)
    · split at h
      · obtain ⟨rest, hc, rfl⟩ := ok_of_map_eq_ok h
        exact Nat.succ_le_succ (ih hc)
      · split at h
        · exact (ih h).trans (Nat.le_succ _)
        · cases h

def written (A : RegionAlgebra) (kind : OverlayKind) (inputs methods : List Part) : List Piece :=
  (pieces A kind inputs methods).filter (!·.polygons.isEmpty)

variable {s : Store} {input method result : View}

/-- An overlay into a table that holds nothing writes every piece, if the identifiers suffice. -/
theorem run_into_blank (hblank : Blank s result) {inputs methods : List Part}
    (hinputs : collect kind o.skipFailures (input.selected (s.table input.table)) = .ok inputs)
    (hmethods : collect kind o.skipFailures (method.selected (s.table method.table)) = .ok methods)
    (hroom : ((inputs.length + 1 : Nat) * (methods.length + 1 : Nat) : Int) ≤ FeatureTable.maxFid) :
    let out := run A kind s input method result o fun _ => true
    out.value = .ok () ∧ holdings (out.store.table result.table) =
      ↑((written A kind inputs methods).map
        (feature kind o (s.table input.table).schema.fields (s.table method.table).schema.fields)) := by
  generalize hfi : (s.table input.table).schema.fields = inputFields
  generalize hfm : (s.table method.table).schema.fields = methodFields
  generalize ht : prepare kind o inputFields methodFields (s.table result.table) = t
  have hschema : t.schema = resultSchema kind o inputFields methodFields := by
    rw [← ht, schema_prepare_of_empty hblank.schema]
  have hrecords : t.records = .empty := by rw [← ht, prepare, hblank.records]
  have hlax : t.schema.Lax := hschema ▸ lax_resultSchema kind o inputFields methodFields
  have hcounted : t.Counted := by simp [FeatureTable.Counted, hrecords]
  have hcan : t.capabilities.contains .sequentialWrite = true := by
    rw [← ht]
    exact hblank.can
  have hshaped : ∀ r ∈ recordsFor A kind o inputFields methodFields t.schema inputs methods,
      r.Shaped t.schema := fun r hr => by
    obtain ⟨p, -, rfl⟩ := List.mem_map.mp hr
    exact shaped_record _ _ _ _ p
  have hfits : t.nextFid +
      (recordsFor A kind o inputFields methodFields t.schema inputs methods).length ≤
        FeatureTable.maxFid := by
    have hnext : t.nextFid = 1 := by
      rw [← ht]
      exact hblank.nextFid
    have hcount : (written A kind inputs methods).length ≤ (pieces A kind inputs methods).length :=
      List.length_filter_le _ _
    have hpieces := length_pieces_le A kind inputs methods
    rw [hnext, recordsFor, List.length_map]
    change 1 + ((written A kind inputs methods).length : Int) ≤ _
    omega
  obtain ⟨t', hwrite, hholds⟩ := writeAll_of_lax hlax hcounted hblank.writable hcan hshaped hfits
  have hnothing : holdings t = 0 := by simp [holdings, hrecords, FidMap.values]
  rw [hnothing, Multiset.zero_add] at hholds
  have hresult : writeResult A kind o s input method result inputs methods = (.ok (), result, t') := by
    rw [writeResult_eq hblank.placed]
    simp only [hfi, hfm, ht, hwrite]
  intro out
  have hout : out = _ := run_of_yes hblank.writable hinputs hmethods (tell_of_yes _ 0 fun _ _ => rfl)
  simp only [hresult] at hout
  rw [hout]
  refine ⟨rfl, ?_⟩
  rw [setTable_prepared, Store.table_setTable, if_pos ⟨rfl, hblank.placed⟩, hholds, recordsFor,
    List.map_map, hschema]
  rfl

theorem collect_alike (skip : Bool) (rs : List Record) :
    (∃ parts, ∀ kind, collect kind skip rs = .ok parts) ∨
      ∃ detail, ∀ kind : OverlayKind,
        collect kind skip rs = .error (.refused .unsupportedGeometryType kind.method detail) := by
  induction rs with
  | nil => exact .inl ⟨[], fun _ => rfl⟩
  | cons r rs ih =>
    cases hg : r.geometries.head?.join with
    | none => simpa only [collect, hg] using ih
    | some g =>
      cases hp : g.toPolygons? with
      | none =>
        cases skip with
        | true => simpa only [collect, hg, hp, if_true] using ih
        | false =>
          exact .inr ⟨s!"feature {r.fid.getD Record.missingFid} is not polygonal", fun kind => by
            simp only [collect, hg, hp, Bool.false_eq_true, if_false]⟩
      | some polygons =>
        rcases ih with ⟨parts, hparts⟩ | ⟨detail, hdetail⟩
        · exact .inl ⟨⟨r.data, polygons⟩ :: parts, fun kind => by
            simp only [collect, hg, hp, hparts]
            rfl⟩
        · exact .inr ⟨detail, fun kind => by
            simp only [collect, hg, hp, hdetail]
            rfl⟩

/-! ### The pieces of different kinds -/

theorem pieces_union (A : RegionAlgebra) (inputs methods : List Part) :
    (pieces A .union inputs methods).Perm
      (pieces A .intersection inputs methods ++ pieces A .symDifference inputs methods) := by
  have hsplit := List.flatMap_append_perm inputs (inputPieces A .intersection methods (cover A methods))
    (inputPieces A .symDifference methods (cover A methods))
  simp only [pieces, OverlayKind.keepsMethod, if_true, Bool.false_eq_true, if_false, List.append_nil,
    ← List.append_assoc]
  exact (hsplit.append_right _).symm

/-- The pieces of an identity are those of a union that are not of a method record alone. -/
theorem pieces_identity (A : RegionAlgebra) (inputs methods : List Part) :
    pieces A .identity inputs methods =
      (pieces A .union inputs methods).filter (·.input.isSome) := by
  have hinputs : ∀ i p, p ∈ inputPieces A .union methods (cover A methods) i → p.input.isSome := by
    intro i p hp
    rcases List.mem_append.mp hp with hp | hp
    · obtain ⟨m, -, rfl⟩ := List.mem_map.mp hp
      rfl
    · rw [List.mem_singleton.mp hp]
      rfl
  have hmethods : (methods.map (methodPiece A .union (cover A inputs))).filter (·.input.isSome) = [] := by
    rw [List.filter_eq_nil_iff]
    intro p hp
    obtain ⟨m, -, rfl⟩ := List.mem_map.mp hp
    exact Bool.false_ne_true
  simp only [pieces, OverlayKind.keepsMethod, if_true, Bool.false_eq_true, if_false, List.append_nil,
    List.filter_append, hmethods]
  refine (List.filter_eq_self.mpr fun p hp => ?_).symm
  obtain ⟨i, -, hp⟩ := List.mem_flatMap.mp hp
  exact hinputs i p hp

theorem pieces_update (A : RegionAlgebra) (inputs methods : List Part) :
    (pieces A .update inputs methods).map (·.polygons) =
      (pieces A .erase inputs methods).map (·.polygons) ++ methods.map (·.polygons) := by
  simp only [pieces, OverlayKind.keepsMethod, if_true, Bool.false_eq_true, if_false, List.append_nil,
    List.map_append, List.map_map]
  rfl

theorem feature_eq_of_joins (k k' : OverlayKind) (h : k.joinsAttributes = true)
    (h' : k'.joinsAttributes = true) : feature k = feature k' := by
  have hsame : ∀ k : OverlayKind, k.joinsAttributes = true → feature k = feature .union := by
    intro k hk
    cases k <;> first | rfl | cases hk
  rw [hsame k h, hsame k' h']

def shape (promote : Bool) (polygons : List Polygon) : Geometry :=
  match promote, polygons with
  | false, [polygon] => .polygon polygon
  | _, polygons => .multiPolygon polygons

def polygonal (rs : List Record) : List (List Polygon) :=
  rs.filterMap fun r => (r.geometries.head?.join).bind Geometry.toPolygons?

theorem polygons_of_collect {skip : Bool} {rs : List Record} {parts : List Part}
    (h : collect kind skip rs = .ok parts) : parts.map (·.polygons) = polygonal rs := by
  induction rs generalizing parts with
  | nil =>
    cases h
    rfl
  | cons r rs ih =>
    unfold collect at h
    split at h
    next hg =>
      rw [ih h, polygonal, polygonal, List.filterMap_cons_none (by rw [hg]; rfl)]
    next g hg =>
      split at h
      next polygons hp =>
        obtain ⟨rest, hc, rfl⟩ := ok_of_map_eq_ok h
        rw [List.map_cons, ih hc, polygonal, polygonal,
          List.filterMap_cons_some (by rw [hg]; exact hp)]
      next hp =>
        split at h
        · rw [ih h, polygonal, polygonal, List.filterMap_cons_none (by rw [hg]; exact hp)]
        · cases h

def bounding (polygons : List Polygon) : Bool := !(Geometry.multiPolygon polygons).isEmpty

/-- Whether there are polygons, and none has a point. -/
def hollow (polygons : List Polygon) : Bool := !polygons.isEmpty && !bounding polygons

theorem filter_bounding_hollow (l : List (List Polygon)) :
    (l.filter (!·.isEmpty)).Perm (l.filter bounding ++ l.filter hollow) := by
  have hbounding : (l.filter (!·.isEmpty)).filter bounding = l.filter bounding := by
    rw [List.filter_filter]
    refine List.filter_congr fun ps _ => ?_
    cases ps <;> simp [bounding, Geometry.isEmpty, Geometry.points]
  have hhollow : (l.filter (!·.isEmpty)).filter (!bounding ·) = l.filter hollow := by
    rw [List.filter_filter]
    exact List.filter_congr fun ps _ => Bool.and_comm _ _
  rw [← hbounding, ← hhollow]
  exact (List.filter_append_perm bounding _).symm

variable {inputs methods : List Part}

theorem features_union (input method : List Field) :
    ((written A .union inputs methods).map (feature .union o input method)).Perm
      ((written A .intersection inputs methods).map (feature .intersection o input method) ++
        (written A .symDifference inputs methods).map (feature .symDifference o input method)) := by
  rw [feature_eq_of_joins .intersection .union rfl rfl,
    feature_eq_of_joins .symDifference .union rfl rfl, ← List.map_append, written,
    written, written, ← List.filter_append]
  exact ((pieces_union A inputs methods).filter _).map _

theorem features_identity (input method : List Field) :
    ((written A .union inputs methods).map (feature .union o input method)).Perm
      ((written A .identity inputs methods).map (feature .identity o input method) ++
        ((written A .union inputs methods).filter (·.input.isNone)).map
          (feature .union o input method)) := by
  have hnone : ∀ p : Piece, p.input.isNone = !p.input.isSome := fun p => by
    cases p.input <;> rfl
  have hidentity : written A .identity inputs methods =
      (written A .union inputs methods).filter (·.input.isSome) := by
    rw [written, pieces_identity, written, List.filter_comm]
  rw [feature_eq_of_joins .identity .union rfl rfl, ← List.map_append, hidentity]
  simp only [hnone]
  exact (List.filter_append_perm _ _).symm.map _

theorem geometries_update (input method : List Field) :
    ((written A .update inputs methods).map fun p => (feature .update o input method p).2).Perm
      ((written A .erase inputs methods).map (fun p => (feature .erase o input method p).2) ++
        ((methods.map (·.polygons)).filter (!·.isEmpty)).map fun ps => some (shape o.promoteToMulti ps)) := by
  have hshapes : ∀ kind, (written A kind inputs methods).map
      (fun p => (feature kind o input method p).2) =
      (((pieces A kind inputs methods).map (·.polygons)).filter (!·.isEmpty)).map
        fun ps => some (shape o.promoteToMulti ps) := fun kind => by
    rw [List.filter_map, List.map_map]
    rfl
  rw [hshapes, hshapes, pieces_update, List.filter_append, List.map_append]

/-- Overlays of all kinds of the same two views, each into a table that holds nothing. Either a record
that is not polygonal stops them all; or a union holds what an intersection and a symmetric difference
hold together, and what an identity holds together with the pieces of method records alone; and an
update holds the geometries of an erasure together with those of the method, also such as consist of
polygons without points. -/
theorem laws_of_overlays (A : RegionAlgebra) (o : Options) (input method : View)
    (result : OverlayKind → View) (s : OverlayKind → Store) (ti tm : FeatureTable)
    (hinput : ∀ k, (s k).table input.table = ti) (hmethod : ∀ k, (s k).table method.table = tm)
    (hblank : ∀ k, Blank (s k) (result k))
    (hroom : (((input.selected ti).length + 1 : Nat) * ((method.selected tm).length + 1 : Nat) : Int) ≤
      FeatureTable.maxFid) :
    let out (k : OverlayKind) := run A k (s k) input method (result k) o fun _ => true
    let held (k : OverlayKind) := holdings ((out k).store.table (result k).table)
    let own (p : List Polygon → Bool) : Multiset (Option Geometry) :=
      ↑(((polygonal (method.selected tm)).filter p).map fun ps => some (shape o.promoteToMulti ps))
    (∃ detail, ∀ k, (out k).value = .error (.refused .unsupportedGeometryType k.method detail) ∧
      (out k).store = s k) ∨
    ∃ inputs methods, (∀ k, (out k).value = .ok () ∧
        collect k o.skipFailures (input.selected ti) = .ok inputs ∧
        collect k o.skipFailures (method.selected tm) = .ok methods) ∧
      held .union = held .intersection + held .symDifference ∧
      held .union = held .identity +
        ↑(((written A .union inputs methods).filter (·.input.isNone)).map
          (feature .union o ti.schema.fields tm.schema.fields)) ∧
      (held .update).map Prod.snd = (held .erase).map Prod.snd + own bounding + own hollow := by
  intro out held own
  have hstop : ∀ e k, collect k o.skipFailures (input.selected ti) = .error e ∨
      (∃ inputs, collect k o.skipFailures (input.selected ti) = .ok inputs) ∧
        collect k o.skipFailures (method.selected tm) = .error e →
      (out k).value = .error e ∧ (out k).store = s k := fun e k h => by
    rw [← hinput k, ← hmethod k] at h
    rw [show out k = _ from run_of_unfit (hblank k).writable h]
    exact ⟨rfl, rfl⟩
  rcases collect_alike o.skipFailures (input.selected ti) with ⟨inputs, hinputs⟩ | ⟨detail, hdetail⟩
  case inr => exact .inl ⟨detail, fun k => hstop _ k (.inl (hdetail k))⟩
  rcases collect_alike o.skipFailures (method.selected tm) with ⟨methods, hmethods⟩ | ⟨detail, hdetail⟩
  case inr => exact .inl ⟨detail, fun k => hstop _ k (.inr ⟨⟨inputs, hinputs k⟩, hdetail k⟩)⟩
  have hli := length_collect_le (hinputs .union)
  have hlm := length_collect_le (hmethods .union)
  have hle := Nat.mul_le_mul (Nat.succ_le_succ hli) (Nat.succ_le_succ hlm)
  have hrun : ∀ k, (out k).value = .ok () ∧ held k = ↑((written A k inputs methods).map
      (feature k o ti.schema.fields tm.schema.fields)) := fun k => by
    have h := run_into_blank (A := A) (hblank k) ((hinput k).symm ▸ hinputs k)
      ((hmethod k).symm ▸ hmethods k) (le_trans (by exact_mod_cast hle) hroom)
    rwa [hinput, hmethod] at h
  refine .inr ⟨inputs, methods, fun k => ⟨(hrun k).1, hinputs k, hmethods k⟩, ?_, ?_, ?_⟩
  · rw [(hrun .union).2, (hrun .intersection).2, (hrun .symDifference).2, Multiset.coe_add,
      Multiset.coe_eq_coe]
    exact features_union _ _
  · rw [(hrun .union).2, (hrun .identity).2, Multiset.coe_add, Multiset.coe_eq_coe]
    exact features_identity _ _
  · rw [(hrun .update).2, (hrun .erase).2, Multiset.map_coe, Multiset.map_coe, Multiset.add_assoc,
      Multiset.coe_add, Multiset.coe_add, Multiset.coe_eq_coe, List.map_map, List.map_map,
      ← List.map_append]
    refine (geometries_update _ _).trans (.append_left _ (.map _ ?_))
    rw [polygons_of_collect (hmethods .update)]
    exact filter_bounding_hollow _

def numbered (name : String) (geometries : List Geometry) : FeatureTable :=
  let field : Field := ⟨name, .integer, .none, 0, 0, true, false, none, false, none⟩
  let t : FeatureTable := .make name ⟨[field], [unknownGeometry]⟩
  (writeAll t (.make 0 0 true false) (geometries.zipIdx.map fun (g, i) =>
    ⟨none, [.integer i], [some g]⟩)).2.2

def box (x y x' y' : Int) : Geometry :=
  .rect ⟨Binary.ofInt x, Binary.ofInt y⟩ ⟨Binary.ofInt x', Binary.ofInt y'⟩

def emptyPolygon : Geometry := .polygon ⟨[], []⟩

def rectangles : Store :=
  ⟨[numbered "i" [box 0 0 2 2], numbered "m" [box 1 0 3 2, emptyPolygon, box 5 5 6 6], .make "r" .empty],
    [⟨[0, 1, 2], [], .unsupported, none, 0⟩], [("d", 0)]⟩

theorem blank_rectangles : Blank rectangles (.make 2 0 true false) where
  placed := by decide
  writable := rfl
  can := by decide
  schema := rfl
  records := rfl
  nextFid := rfl

theorem laws_of_overlays_of_rectangles :
    let input : View := .make 0 0 false false
    let method : View := .make 1 0 false false
    let result : View := .make 2 0 true false
    let out (k : OverlayKind) :=
      run .exact k rectangles input method result (.ofList .empty) fun _ => true
    let held (k : OverlayKind) := holdings ((out k).store.table result.table)
    (∀ k, (out k).value = .ok ()) ∧
      held .union = held .intersection + held .symDifference ∧
      (held .update).map Prod.snd = (held .erase).map Prod.snd +
        ↑[some (Geometry.polygon (Geometry.rectPolygon ⟨Binary.ofInt 1, Binary.ofInt 0⟩
            ⟨Binary.ofInt 3, Binary.ofInt 2⟩)),
          some (.polygon (Geometry.rectPolygon ⟨Binary.ofInt 5, Binary.ofInt 5⟩
            ⟨Binary.ofInt 6, Binary.ofInt 6⟩))] + ↑[some emptyPolygon] := by
  intro input method result out held
  have h := laws_of_overlays .exact (.ofList .empty) input method (fun _ => result)
    (fun _ => rectangles) _ _ (fun _ => rfl) (fun _ => rfl) (fun _ => blank_rectangles) (by decide +kernel)
  rcases h with ⟨detail, h⟩ | ⟨inputs, methods, hok, hunion, -, hupdate⟩
  · have hdone : (out .intersection).value.toOption.isSome = true := by decide +kernel
    rw [(h .intersection).1] at hdone
    cases hdone
  · exact ⟨fun k => (hok k).1, hunion, hupdate⟩

/-- An update writes the polygons without points of the method, and not only those of its geometries
that are not empty. -/
theorem update_writes_empty_polygons :
    let s : Store := { rectangles with tables := rectangles.tables.set 1 (numbered "m" [emptyPolygon]) }
    let method : View := .make 1 0 false false
    let result : View := .make 2 0 true false
    let held (k : OverlayKind) := holdings ((run .exact k s (.make 0 0 false false) method result
      (.ofList .empty) fun _ => true).store.table result.table)
    (held .update).map Prod.snd ≠ (held .erase).map Prod.snd +
      ↑(((polygonal (method.selected (s.table method.table))).filter bounding).map fun ps =>
        some (shape false ps)) := by
  intro s method result held h
  have hcard := congrArg Multiset.card h
  revert hcard
  decide +kernel

end Overlay

end FeatureLayer
