import FeatureLayer.Proofs.Workspace.ScanOrder

namespace FeatureLayer

namespace Layer

variable {f : Faults} {s : Store} {l : Layer} {o : OpenLayer}

def rowAnswer (f : Faults) (l : Layer) (o : OpenLayer) (r : Record) : Except Error Reply :=
  ((l.plan o).decodeRow f.codec l.reading r).map fun row => .row (some row)

theorem reads_next_of_next_eq_some (ho : l.state = some o) {r : Record} {view : View}
    (h : f.next s o.view = (some r, view)) (cs : List ReadCall) :
    l.reads f s (.next :: cs) =
      l.rowAnswer f o r :: (l.withState { o with view, scan := .scanning }).reads f s cs := by
  have hnext : l.next f s =
      (((l.plan o).decodeRow f.codec l.reading r).map some,
        l.withState { o with view, scan := .scanning }) := by
    unfold next
    rw [ho]
    simp only [h]
  have hask : l.ask f s .next = ⟨(l.next f s).1.map .row, [], (l.next f s).2, s⟩ := rfl
  rw [reads]
  simp only [ReadCall.request, hask, hnext, rowAnswer]
  cases (l.plan o).decodeRow f.codec l.reading r <;> rfl

theorem reads_fetchedRecords (ho : l.state = some o) (limit : Nat) {p : Fetch} (hp : p.view = o.view) :
    let records := fetchedRecords f s (l.plan o) l.reading limit p
    l.reads f s (List.replicate records.length .next) = records.map (l.rowAnswer f o) := by
  induction limit generalizing l o p with
  | zero => rfl
  | succ limit ih =>
    simp only
    unfold fetchedRecords
    rw [hp]
    generalize hnext : f.next s o.view = answer
    obtain ⟨_ | r, view⟩ := answer
    · rfl
    · have hone : l.reads f s [.next] = [l.rowAnswer f o r] := reads_next_of_next_eq_some ho hnext []
      cases hvalues : (l.plan o).decode f.codec l.reading r with
      | error e =>
        simp only [hvalues]
        exact hone
      | ok values =>
        simp only [hvalues]
        split
        · exact hone
        · rw [List.length_cons, List.replicate_succ, reads_next_of_next_eq_some ho hnext, List.map_cons]
          exact congrArg _ (ih (l := l.withState { o with view, scan := .scanning }) rfl rfl)

/-- A fetch that comes to its end has put into the table all records that it came to. -/
theorem mapM_fetchedRecords {plan : ReadPlan} {reading : ReadOptions} {limit : Nat} {p : Fetch}
    (h : (fetchRows f s plan reading limit p).1 = .ok ()) :
    ∃ rows, (fetchedRecords f s plan reading limit p).mapM (plan.decode f.codec reading) = .ok rows ∧
      (fetchRows f s plan reading limit p).2.table = rows.foldl Table.push p.table := by
  induction limit generalizing p with
  | zero => exact ⟨[], rfl, rfl⟩
  | succ limit ih =>
    unfold fetchRows at h ⊢
    unfold fetchedRecords
    generalize f.next s p.view = answer at h ⊢
    obtain ⟨_ | r, view⟩ := answer
    · exact ⟨[], rfl, rfl⟩
    · cases hvalues : plan.decode f.codec reading r with
      | error e => simp [hvalues] at h
      | ok values =>
        simp only [hvalues] at h ⊢
        split at h
        · cases h
        next hgo =>
          obtain ⟨rows, hrows, htable⟩ := ih h
          rw [if_neg hgo, if_neg hgo]
          exact ⟨values :: rows, by rw [List.mapM_cons, hvalues, hrows]; rfl, htable⟩

theorem fetchFrom_decodes {view : View} {expected : Option Int} {room limit : Nat} {t : Table}
    (h : (l.fetchFrom f s o view expected room limit).1 = .ok t) :
    (l.plan o).fits room = true ∧ ∃ warnings, (expected = none → warnings = []) ∧
      Table.ofRecords (l.plan o) f.codec l.reading room warnings
        (fetchedRecords f s (l.plan o) l.reading limit ⟨view, .start (l.plan o), l.interrupt⟩) = .ok t := by
  unfold fetchFrom at h
  simp only at h
  split at h
  · cases h
  next hroom =>
    refine ⟨by simpa using hroom, ?_⟩
    have hrows := @mapM_fetchedRecords f s (l.plan o) l.reading limit
      ⟨view, .start (l.plan o), l.interrupt⟩
    generalize fetchRows f s (l.plan o) l.reading limit ⟨view, .start (l.plan o), l.interrupt⟩ = fetched
      at h hrows
    obtain ⟨e | ⟨⟨⟩⟩, q⟩ := fetched
    · cases h
    · obtain ⟨rows, hrows, htable⟩ := hrows rfl
      obtain ⟨warnings, hnone, ht⟩ : ∃ warnings, (expected = none → warnings = []) ∧
          q.table.finish room warnings = t := ⟨_, fun hnone => by rw [hnone], Except.ok.inj h⟩
      simp only at htable
      rw [htable] at ht
      exact ⟨warnings, hnone, by rw [Table.ofRecords, hrows, ← ht]; rfl⟩

theorem ofRecords_of_fetch_rows {n : Nat} {t : Table} (h : (l.fetch f s (.rows n)).1 = .ok t) :
    ∃ (o : OpenLayer) (records : List Record), l.state = some o ∧
      Table.ofRecords (l.plan o) f.codec l.reading n [] records = .ok t ∧
      l.reads f s (List.replicate records.length .next) = records.map (l.rowAnswer f o) := by
  cases ho : l.state with
  | none =>
    unfold fetch at h
    rw [ho] at h
    cases h
  | some o =>
    rw [fetch_rows f s ho] at h
    obtain ⟨-, warnings, hnone, ht⟩ := fetchFrom_decodes h
    obtain rfl := hnone rfl
    exact ⟨o, _, rfl, ht, reads_fetchedRecords ho _ rfl⟩

end Layer

namespace Table

/-- Records whose data their fields read and whose geometries can be written make a table of as many
rows as there are records. All its columns are that long, its rows are the rows that single reads
give, and it has no others. What a layer fetches is such a table, of the records that as many single
reads would have come to. -/
theorem rows_agree_with_reads :
    (∀ (codec : GeometryCodec) (s : Schema) (ignored : IgnoredFields) (options : ReadOptions)
        (room : Nat) (warnings : List Warning) (records : List Record),
      (∀ r ∈ records, r.Readable s) →
      (∀ r ∈ records, ∀ g, some g ∈ r.geometries → ∃ v, codec.toValue options (some g) = .ok v) →
      let plan := ReadPlan.make s ignored options
      ∃ t, ofRecords plan codec options room warnings records = .ok t ∧
        t.numRows = records.length ∧ (∀ c ∈ t.columns, c.length = t.numRows) ∧
        (∀ i r, records[i]? = some r →
          ∃ row, plan.decodeRow codec options r = .ok row ∧ t.row? i = some row) ∧
        ∀ i, t.row? i = none ↔ t.numRows ≤ i) ∧
    ∀ (f : Faults) (s : Store) (l : Layer) (n : Nat) (t : Table),
      (l.fetch f s (.rows n)).1 = .ok t →
      ∃ (o : OpenLayer) (records : List Record), l.state = some o ∧
        ofRecords (l.plan o) f.codec l.reading n [] records = .ok t ∧
        l.reads f s (List.replicate records.length .next) = records.map (l.rowAnswer f o) := by
  refine ⟨fun codec s ignored options room warnings records hdata hgeometry => ?_,
    fun f s l n t h => Layer.ofRecords_of_fetch_rows h⟩
  have hdecode : ∀ r ∈ records,
      ∃ vs, (ReadPlan.make s ignored options).decode codec options r = .ok vs :=
    fun r hr => ReadPlan.decode_ok_of_toValue (hgeometry r hr)
  obtain ⟨rows, hrows⟩ := mapM_ok_of_forall hdecode
  have hholds := holds_of_mapM_eq_ok hrows
  refine ⟨(rows.foldl push (start (ReadPlan.make s ignored options))).finish room warnings, ?_, ?_⟩
  · rw [ofRecords, hrows]
    rfl
  rw [hholds.finish]
  refine ⟨hholds.numRows, fun c hc => hholds.length_column hc, fun i r hi => ?_, hholds.row?_eq_none⟩
  have hr : r ∈ records := List.mem_of_getElem? hi
  obtain ⟨vs, hvs⟩ := ok_of_mapM_eq_ok hrows r hr
  refine ⟨_, ReadPlan.decodeRow_eq_tableRow (hdata r hr) hvs, ?_⟩
  have hrow := hholds.row? i
  rw [hi] at hrow
  exact hrow

theorem rows_agree_with_reads_of_two :
    let field (kind : FieldKind) : Field :=
      ⟨"a", kind, .none, 0, 0, true, false, none, false, none⟩
    let schema : Schema := ⟨[field .text, field .integers], [⟨"", "Point", true, false, none⟩]⟩
    let records : List Record :=
      [⟨some 3, [.text "x", .null], [some (.point ⟨Binary.ofInt 1, Binary.ofInt 2⟩)]⟩,
        ⟨some 4, [.unset, .integers [5]], [none]⟩]
    ∃ t, ofRecords (.make schema .none .default) .plain .default 8 [] records = .ok t ∧
      t.numRows = 2 ∧
      t.row? 1 =
        some ⟨[("FID", .integer64 4), ("a", .integers [some 5]), ("geometry", .null)]⟩ ∧
      t.row? 2 = none := by
  intro field schema records
  obtain ⟨t, ht, hnum, -, hrows, hnone⟩ := rows_agree_with_reads.1 .plain schema .none .default 8 []
    records (by decide) (fun r _ g _ => ⟨_, rfl⟩)
  refine ⟨t, ht, hnum, ?_, (hnone 2).mpr (by rw [hnum]; decide)⟩
  obtain ⟨row, hrow, hread⟩ := hrows 1 ⟨some 4, [.unset, .integers [5]], [none]⟩ rfl
  rw [hread]
  cases hrow
  decide

end Table

end FeatureLayer
