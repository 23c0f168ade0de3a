import FeatureLayer.Table
/-!
Tables give back what was put into them. Each value goes into a column of its own kind and is found in
it again, so that a row of a table is the row that a reader of single records gets.
-/

namespace FeatureLayer

/-! ### Answers to a list of questions -/

section

variable {α β ε : Type} {f : α → Except ε β} {x : α} {xs : List α} {ys : List β}

theorem mapM_ok_of_forall (h : ∀ x ∈ xs, ∃ y, f x = .ok y) : ∃ ys, xs.mapM f = .ok ys := by
  induction xs with
  | nil => exact ⟨[], rfl⟩
  | cons x xs ih =>
    obtain ⟨y, hy⟩ := h x List.mem_cons_self
    obtain ⟨ys, hys⟩ := ih fun z hz => h z (List.mem_cons_of_mem _ hz)
    refine ⟨y :: ys, ?_⟩
    rw [List.mapM_cons, hy, hys]
    rfl

theorem of_mapM_cons_eq_ok (h : (x :: xs).mapM f = .ok ys) :
    ∃ y zs, f x = .ok y ∧ xs.mapM f = .ok zs ∧ ys = y :: zs := by
  rw [List.mapM_cons] at h
  cases hx : f x with
  | error e =>
    rw [hx] at h
    cases h
  | ok y =>
    cases hxs : xs.mapM f with
    | error e =>
      rw [hx, hxs] at h
      cases h
    | ok zs =>
      rw [hx, hxs] at h
      cases h
      exact ⟨y, zs, rfl, rfl, rfl⟩

theorem mapM_congr_left {g : α → Except ε β} (h : ∀ x ∈ xs, f x = g x) : xs.mapM f = xs.mapM g := by
  induction xs with
  | nil => rfl
  | cons x xs ih =>
    obtain ⟨hx, hxs⟩ := List.forall_mem_cons.mp h
    rw [List.mapM_cons, List.mapM_cons, hx, ih hxs]

theorem length_of_mapM_eq_ok (h : xs.mapM f = .ok ys) : ys.length = xs.length := by
  induction xs generalizing ys with
  | nil =>
    cases h
    rfl
  | cons x xs ih =>
    obtain ⟨y, zs, -, hzs, rfl⟩ := of_mapM_cons_eq_ok h
    rw [List.length_cons, List.length_cons, ih hzs]

theorem ok_of_mapM_eq_ok (h : xs.mapM f = .ok ys) : ∀ x ∈ xs, ∃ y, f x = .ok y := by
  induction xs generalizing ys with
  | nil => exact nofun
  | cons x xs ih =>
    obtain ⟨y, zs, hy, hzs, rfl⟩ := of_mapM_cons_eq_ok h
    exact List.forall_mem_cons.mpr ⟨⟨y, hy⟩, ih hzs⟩

theorem eq_map_of_mapM_eq_ok {g : α → β} (h : xs.mapM f = .ok ys)
    (hg : ∀ x ∈ xs, ∀ y, f x = .ok y → y = g x) : ys = xs.map g := by
  induction xs generalizing ys with
  | nil =>
    cases h
    rfl
  | cons x xs ih =>
    obtain ⟨y, zs, hy, hzs, rfl⟩ := of_mapM_cons_eq_ok h
    obtain ⟨hx, hxs⟩ := List.forall_mem_cons.mp hg
    rw [List.map_cons, ← hx y hy, ← ih hzs hxs]

end

theorem filterMap_getElem?_range {α : Type} (xs : List α) :
    (List.range xs.length).filterMap (xs[·]?) = xs := by
  induction xs with
  | nil => rfl
  | cons x xs ih =>
    rw [List.length_cons, List.range_succ_eq_map, List.filterMap_cons, List.filterMap_map]
    exact congrArg (x :: ·) ih

/-! ### One column -/

namespace Column

/-- Whether a value is of the kind of the column. -/
def takes : Column → Value → Bool
  | integer _, .integer _ | boolean _, .boolean _ | integer64 _, .integer64 _ | real _, .real _
  | text _, .text _ | date _, .date _ | dateTime _, .dateTime _ | binary _, .binary _
  | integers _, .integers _ | integers64 _, .integers64 _ | reals _, .reals _ | texts _, .texts _
  | geometry _, .geometry _ => true
  | _, _ => false

def missing : Column → Value
  | integers _ => .integers [none]
  | integers64 _ => .integers64 [none]
  | reals _ => .reals [none]
  | texts _ => .texts [none]
  | _ => .null

/-- What the column gives back for a value that is put into it. -/
def kept (c : Column) (v : Value) : Value := if c.takes v then v else c.missing

theorem length_values (c : Column) : c.values.length = c.length := by
  cases c <;> exact List.length_map _

theorem values_pushNull (c : Column) : c.pushNull.values = c.values ++ [c.missing] := by
  cases c <;> exact List.map_append

theorem values_push (c : Column) (v : Value) : (c.push v).values = c.values ++ [c.kept v] := by
  rw [kept]
  split
  next h =>
    cases c <;> cases v <;> first | exact List.map_append | exact absurd h Bool.false_ne_true
  next h =>
    have hnull : c.push v = c.pushNull := by
      cases c <;> cases v <;> first | rfl | exact absurd rfl h
    rw [hnull, values_pushNull]

theorem kept_take (c : Column) (n : Nat) : (c.take n).kept = c.kept := by
  funext v
  cases c <;> cases v <;> rfl

theorem take_zero_push (c : Column) (v : Value) : (c.push v).take 0 = c.take 0 := by
  cases c <;> cases v <;> rfl

theorem kept_push (c : Column) (v : Value) : (c.push v).kept = c.kept := by
  rw [← kept_take (c.push v) 0, take_zero_push, kept_take]

theorem values_foldl_push (c : Column) (vs : List Value) :
    (vs.foldl push c).values = c.values ++ vs.map c.kept := by
  induction vs generalizing c with
  | nil => exact (List.append_nil _).symm
  | cons v vs ih =>
    rw [List.foldl_cons, ih, values_push, kept_push, List.append_assoc, List.map_cons,
      List.singleton_append]

theorem foldl_push_fids (cells fids : List (Option Int)) :
    (fids.map (orNull .integer64)).foldl push (integer64 cells) = integer64 (cells ++ fids) := by
  induction fids generalizing cells with
  | nil =>
    rw [List.append_nil]
    rfl
  | cons fid fids ih =>
    have hpush : (integer64 cells).push (orNull .integer64 fid) = integer64 (cells ++ [fid]) := by
      cases fid <;> rfl
    rw [List.map_cons, List.foldl_cons, hpush, ih, List.append_assoc, List.singleton_append]

theorem take_length (c : Column) : c.take c.length = c := by
  cases c <;> exact congrArg _ (List.take_length)

theorem length_take_self {c : Column} {n : Nat} (h : c.length = n) : c.take n = c := h ▸ c.take_length

end Column

/-! ### Tables of records -/

namespace ReadPlan

variable (p : ReadPlan) (codec : GeometryCodec) (options : ReadOptions)

/-- What a record holds in a column, null if that cannot be told. -/
def cell (r : Record) (source : ColumnSource) : Value :=
  (valueAt codec options r source).toOption.getD .null

variable {p codec options} in
theorem eq_cells_of_decode_eq_ok {r : Record} {vs : List Value}
    (h : p.decode codec options r = .ok vs) :
    vs = p.columns.map fun c => cell codec options r c.2 := by
  refine eq_map_of_mapM_eq_ok h fun c _ v hv => ?_
  rw [cell, hv]
  rfl

/-- The row in which a table shows a record: what its columns keep of the values. -/
def tableRow (r : Record) : Row :=
  .ofList (p.columns.map fun c => (c.1, (emptyColumn c.2).kept (cell codec options r c.2)))

theorem values_emptyColumn (source : ColumnSource) : (emptyColumn source).values = [] := by
  unfold emptyColumn Column.forField
  repeat' split
  all_goals rfl

end ReadPlan

theorem Column.foldl_zipWith_push {α ρ : Type} (start : α → Column) (value : ρ → α → Value)
    (cs : List α) (rs : List ρ) :
    (rs.map fun r => cs.map (value r)).foldl (List.zipWith push) (cs.map start) =
      cs.map fun c => (rs.map (value · c)).foldl push (start c) := by
  induction rs generalizing start with
  | nil => rfl
  | cons r rs ih =>
    have hstep : List.zipWith push (cs.map start) (cs.map (value r)) =
        cs.map fun c => (start c).push (value r c) := by
      rw [List.zipWith_map, List.zipWith_self]
    rw [List.map_cons, List.foldl_cons, hstep, ih]
    rfl

namespace Table

def ofRecords (p : ReadPlan) (codec : GeometryCodec) (options : ReadOptions) (room : Nat)
    (warnings : List Warning) (records : List Record) : Except Error Table :=
  (records.mapM (p.decode codec options)).map fun rows =>
    (rows.foldl push (start p)).finish room warnings

/-- The table holds these records, one a row, each value in a column of its own. -/
structure Holds (t : Table) (p : ReadPlan) (codec : GeometryCodec) (options : ReadOptions)
    (records : List Record) : Prop where
  names : t.names = p.names
  numRows : t.numRows = records.length
  columns : t.columns = p.columns.map fun c =>
    (records.map fun r => ReadPlan.cell codec options r c.2).foldl Column.push
      (ReadPlan.emptyColumn c.2)

theorem foldl_push (t : Table) (rows : List (List Value)) :
    rows.foldl push t =
      { t with
        columns := rows.foldl (List.zipWith Column.push) t.columns
        numRows := t.numRows + rows.length } := by
  induction rows generalizing t with
  | nil => rfl
  | cons row rows ih =>
    rw [List.foldl_cons, ih, List.foldl_cons, List.length_cons]
    simp only [push]
    congr 1
    omega

variable {t : Table} {p : ReadPlan} {codec : GeometryCodec} {options : ReadOptions}
  {records : List Record}

theorem holds_of_mapM_eq_ok {rows : List (List Value)}
    (h : records.mapM (p.decode codec options) = .ok rows) :
    (rows.foldl push (start p)).Holds p codec options records := by
  have hrows : rows = records.map fun r => p.columns.map fun c =>
      ReadPlan.cell codec options r c.2 :=
    eq_map_of_mapM_eq_ok h fun r _ vs hvs => ReadPlan.eq_cells_of_decode_eq_ok hvs
  rw [foldl_push, hrows]
  refine ⟨rfl, ?_, ?_⟩
  · simp only [start, List.length_map, Nat.zero_add]
  · exact Column.foldl_zipWith_push _ _ p.columns records

theorem Holds.length_column (h : t.Holds p codec options records) {c : Column} (hc : c ∈ t.columns) :
    c.length = t.numRows := by
  rw [h.columns] at hc
  obtain ⟨e, -, rfl⟩ := List.mem_map.mp hc
  rw [← Column.length_values, Column.values_foldl_push, ReadPlan.values_emptyColumn, h.numRows]
  simp

theorem Holds.finish (h : t.Holds p codec options records) (room : Nat) (warnings : List Warning) :
    t.finish room warnings = { t with warnings } := by
  have hcolumns : t.columns.map (·.take t.numRows) = t.columns := by
    rw [List.map_congr_left fun c hc => Column.length_take_self (h.length_column hc), List.map_id']
  simp only [Table.finish, hcolumns, ite_self]

theorem Holds.row? (h : t.Holds p codec options records) (i : Nat) :
    t.row? i = records[i]?.map (p.tableRow codec options) := by
  unfold Table.row?
  rw [h.numRows]
  split
  next hi =>
    have hcell : ∀ c : String × ColumnSource,
        ((records.map fun r => ReadPlan.cell codec options r c.2).foldl Column.push
          (ReadPlan.emptyColumn c.2)).get? i =
        some ((ReadPlan.emptyColumn c.2).kept (ReadPlan.cell codec options records[i] c.2)) := by
      intro c
      rw [Column.get?, Column.values_foldl_push, ReadPlan.values_emptyColumn]
      simp [hi]
    rw [h.names, h.columns, ReadPlan.names, List.zip_map', List.mapM_map]
    simp only [Function.comp_def, hcell, Option.map_some]
    rw [List.getElem?_eq_getElem hi]
    exact congrArg (Option.map Row.ofList) (List.mapM_pure (m := Option))
  next hi => rw [List.getElem?_eq_none (by omega), Option.map_none]

theorem Holds.row?_eq_none (h : t.Holds p codec options records) (i : Nat) :
    t.row? i = none ↔ t.numRows ≤ i := by
  rw [h.row?, Option.map_eq_none_iff, List.getElem?_eq_none_iff, h.numRows]

theorem Holds.rows (h : t.Holds p codec options records) :
    t.rows = records.map (p.tableRow codec options) := by
  have hrow : t.row? = ((records.map (p.tableRow codec options))[·]?) := by
    funext i
    rw [h.row?, List.getElem?_map]
  rw [Table.rows, h.numRows, hrow, ← List.length_map (p.tableRow codec options)]
  exact filterMap_getElem?_range _

theorem Holds.column?_fidName {s : Schema} {ignored : IgnoredFields}
    (h : t.Holds (.make s ignored options) codec options records) :
    t.column? Row.fidName = some (.integer64 (records.map (·.fid))) := by
  have hcells : (records.map fun r => ReadPlan.cell codec options r .fid) =
      (records.map (·.fid)).map (Column.orNull .integer64) := by
    rw [List.map_map]
    rfl
  have hfirst : t.names.findIdx? (· = Row.fidName) = some 0 := by
    rw [h.names]
    rfl
  rw [column?, hfirst, h.columns]
  refine congrArg some ?_
  show (records.map fun r => ReadPlan.cell codec options r .fid).foldl Column.push (.integer64 []) = _
  rw [hcells, Column.foldl_push_fids, List.nil_append]

end Table

/-! ### Records that are read alike both ways -/

/-- Whether a field of that kind reads a datum as a value of its own kind. Missing data always read as
missing, and texts and times read any datum as text. -/
def FieldKind.reads : FieldKind → Datum → Bool
  | _, .unset | _, .null => true
  | .text, _ | .time, _ => true
  | .integer, .integer _ | .integer64, .integer64 _ | .integer64, .integer _ | .real, .real _
  | .binary, .binary _ | .date, .date _ | .date, .dateTime _ | .dateTime, .dateTime _
  | .dateTime, .date _ | .integers, .integers _ | .integers64, .integers64 _ | .reals, .reals _
  | .texts, .texts _ => true
  | _, _ => false

def Record.Readable (s : Schema) (r : Record) : Prop :=
  ∀ e ∈ s.fields.zip r.data, e.1.kind.reads e.2 = true

instance (s : Schema) (r : Record) : Decidable (r.Readable s) :=
  inferInstanceAs (Decidable (∀ e ∈ s.fields.zip r.data, e.1.kind.reads e.2 = true))

namespace Column

theorem kept_missing (c : Column) : c.kept c.missing = c.missing := by
  rw [kept, ite_self]

theorem missing_forField (kind : FieldKind) (subkind : Subkind) :
    (forField kind subkind).missing = Value.absent kind := by
  cases kind <;> first | rfl | (rw [forField]; split <;> rfl)

theorem kept_ofDatum {kind : FieldKind} {d : Datum} (h : kind.reads d = true) (subkind : Subkind) :
    (forField kind subkind).kept (Value.ofDatum kind subkind d) = Value.ofDatum kind subkind d := by
  unfold Value.ofDatum
  split
  next => rw [← missing_forField kind subkind, kept_missing]
  next hd =>
    -- of the kinds that a field reads, all but these read as one kind of value whatever the datum
    cases kind <;> cases d <;> first
      | exact absurd rfl hd
      | exact absurd h Bool.false_ne_true
      | rfl
      | skip
    case integer v =>
      by_cases hs : subkind = .boolean
      all_goals
        simp only [forField, hs]
        rfl
    case date.date t | date.dateTime t =>
      simp only
      cases t.dayNumber? <;> rfl
    case dateTime.date t | dateTime.dateTime t =>
      simp only
      cases t.epochSeconds? <;> rfl

theorem kept_toValue {codec : GeometryCodec} {options : ReadOptions} {g : Option Geometry} {v : Value}
    (h : codec.toValue options g = .ok v) : (geometry []).kept v = v := by
  unfold GeometryCodec.toValue at h
  split at h
  · cases h
    rfl
  · simp only [Except.map] at h
    split at h <;> (try split at h) <;> cases h <;> rfl

end Column

namespace ReadPlan

variable {s : Schema} {ignored : IgnoredFields} {options : ReadOptions} {codec : GeometryCodec}
  {r : Record}

theorem source_of_mem_make {c : String × ColumnSource} (h : c ∈ (make s ignored options).columns) :
    c.2 = .fid ∨
      (∃ (i : Nat) (f : Field), s.fields[i]? = some f ∧ i ∉ ignored.attributes ∧
        c.2 = .attribute i f.kind f.subkind) ∨
      ∃ (i : Nat) (g : GeometryField), s.geometryFields[i]? = some g ∧ i ∉ ignored.geometries ∧
        c.2 = .geometry i := by
  rw [make, List.cons_append, List.mem_cons, List.mem_append] at h
  rcases h with rfl | h | h
  · exact .inl rfl
  · rw [attributeColumns, List.mem_filterMap] at h
    obtain ⟨⟨f, i⟩, hf, hc⟩ := h
    rw [Option.ite_none_left_eq_some] at hc
    obtain ⟨hi, hc⟩ := hc
    cases hc
    rw [Bool.or_eq_true, not_or, List.contains_iff_mem] at hi
    exact .inr (.inl ⟨i, f, List.mem_zipIdx_iff_getElem?.mp hf, hi.2, rfl⟩)
  · split at h
    · cases h
    · rw [geometryColumns, List.mem_filterMap] at h
      obtain ⟨⟨g, i⟩, hg, hc⟩ := h
      rw [Option.ite_none_left_eq_some] at hc
      obtain ⟨hi, hc⟩ := hc
      cases hc
      rw [Bool.or_eq_true, not_or, List.contains_iff_mem] at hi
      exact .inr (.inr ⟨i, g, List.mem_zipIdx_iff_getElem?.mp hg, hi.2, rfl⟩)

/-- The columns of a read keep what a readable record holds. -/
theorem kept_valueAt (hr : r.Readable s) {c : String × ColumnSource}
    (hc : c ∈ (make s ignored options).columns) {v : Value}
    (hv : valueAt codec options r c.2 = .ok v) : (emptyColumn c.2).kept v = v := by
  rcases source_of_mem_make hc with hsource | ⟨i, f, hf, -, hsource⟩ | ⟨i, g, -, -, hsource⟩
  all_goals
    rw [hsource] at hv ⊢
    rw [valueAt] at hv
  · cases hv
    cases r.fid <;> rfl
  · cases hv
    refine Column.kept_ofDatum ?_ _
    cases hd : r.data[i]? with
    | none =>
      cases f.kind <;> rfl
    | some d => exact hr (f, d) (List.mem_of_getElem? (List.getElem?_zip_eq_some.mpr ⟨hf, hd⟩))
  · exact Column.kept_toValue hv

theorem decode_ok_of_toValue (h : ∀ g, some g ∈ r.geometries → ∃ v, codec.toValue options (some g) = .ok v) :
    ∃ vs, (make s ignored options).decode codec options r = .ok vs := by
  refine mapM_ok_of_forall fun c hc => ?_
  rcases source_of_mem_make hc with hsource | ⟨i, f, -, -, hsource⟩ | ⟨i, g, -, -, hsource⟩
  all_goals
    rw [hsource, valueAt]
  · exact ⟨_, rfl⟩
  · exact ⟨_, rfl⟩
  · cases hg : r.geometries[i]?.getD none with
    | none => exact ⟨.null, rfl⟩
    | some g =>
      obtain hi | ⟨-, hi⟩ := Option.getD_eq_iff.mp hg
      · exact h g (List.mem_of_getElem? hi)
      · cases hi

theorem decodeRow_eq_tableRow (hr : r.Readable s) {vs : List Value}
    (h : (make s ignored options).decode codec options r = .ok vs) :
    (make s ignored options).decodeRow codec options r =
      .ok ((make s ignored options).tableRow codec options r) := by
  have hcells := eq_cells_of_decode_eq_ok h
  have hkept : ∀ c ∈ (make s ignored options).columns,
      (c.1, (emptyColumn c.2).kept (cell codec options r c.2)) = (c.1, cell codec options r c.2) := by
    intro c hc
    obtain ⟨v, hv⟩ := ok_of_mapM_eq_ok h c hc
    have hcell : cell codec options r c.2 = v := by
      rw [cell, hv]
      rfl
    rw [hcell, kept_valueAt hr hc hv]
  have hrow : (make s ignored options).names.zip vs =
      (make s ignored options).columns.map fun c => (c.1, cell codec options r c.2) := by
    rw [hcells]
    exact List.zip_map'
  rw [decodeRow, h, tableRow, List.map_congr_left hkept, ← hrow]
  rfl

end ReadPlan

end FeatureLayer
