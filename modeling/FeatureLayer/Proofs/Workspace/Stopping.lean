import FeatureLayer.Proofs.Layer.Tables
import FeatureLayer.Proofs.TimeZone
/-!
Operations that stop the program. They do so just if a layer decodes a time whose zone is too far east;
all others come to what `perform` says of them.
-/

namespace FeatureLayer

theorem forM_eq_error_iff {α : Type} {f : α → Except Panic Unit} {xs : List α} :
    xs.forM f = .error .overflow ↔ ∃ x ∈ xs, f x = .error .overflow := by
  induction xs with
  | nil => exact iff_of_false (fun h => nomatch h) fun ⟨_, hx, _⟩ => nomatch hx
  | cons x xs ih =>
    show (do f x; xs.forM f) = _ ↔ _
    rw [List.exists_mem_cons_iff]
    cases hx : f x with
    | error p =>
      cases p
      exact iff_of_true rfl (.inl rfl)
    | ok u => exact ih.trans ⟨.inr, fun h => h.resolve_left (by simp)⟩

/-- A datum of a field that is read as a time, which exists, in a zone that is computed with overflow. -/
inductive Overflows : FieldKind → Datum → Prop
  | dateTime {t : Stamp} (ht : t.clockSeconds?.isSome = true) (hz : Stamp.lastZone < t.zone) :
      Overflows .dateTime (.dateTime t)
  | date {t : Stamp} (ht : t.clockSeconds?.isSome = true) (hz : Stamp.lastZone < t.zone) :
      Overflows .dateTime (.date t)

namespace Value

variable {kind : FieldKind} {subkind : Subkind} {d : Datum}

theorem read_eq_error_iff : read kind subkind d = .error .overflow ↔ Overflows kind d := by
  unfold read
  split
  next t =>
    rw [map_eq_error_iff, Stamp.epochSeconds_eq_error_iff]
    exact ⟨fun h => .dateTime h.1 h.2, fun | .dateTime ht hz => ⟨ht, hz⟩⟩
  next t =>
    rw [map_eq_error_iff, Stamp.epochSeconds_eq_error_iff]
    exact ⟨fun h => .date h.1 h.2, fun | .date ht hz => ⟨ht, hz⟩⟩
  next hdateTime hdate =>
    refine iff_of_false (by simp) fun h => ?_
    cases h with
    | dateTime => exact hdateTime _ rfl rfl
    | date => exact hdate _ rfl rfl

theorem read_eq_ok (h : ¬Overflows kind d) : read kind subkind d = .ok (ofDatum kind subkind d) := by
  rw [← @read_eq_error_iff kind subkind] at h
  unfold read at h ⊢
  split at h
  · rw [Stamp.epochSeconds_eq_ok (mt map_eq_error_iff.mpr h)]
    rfl
  · rw [Stamp.epochSeconds_eq_ok (mt map_eq_error_iff.mpr h)]
    rfl
  · rfl

end Value

namespace ReadPlan

variable {p : ReadPlan} {r : Record}

theorem check_eq_error_iff :
    p.check r = .error .overflow ↔ ∃ name i kind subkind,
      (name, ColumnSource.attribute i kind subkind) ∈ p.columns ∧
        Overflows kind (r.data[i]?.getD .unset) := by
  rw [check, forM_eq_error_iff]
  constructor
  · rintro ⟨⟨name, source⟩, hc, hstop⟩
    rcases source with _ | ⟨i, kind, subkind⟩ | _
    · cases hstop
    · exact ⟨name, i, kind, subkind, hc, Value.read_eq_error_iff.mp (map_eq_error_iff.mp hstop)⟩
    · cases hstop
  · rintro ⟨name, i, kind, subkind, hc, hoverflows⟩
    exact ⟨_, hc, map_eq_error_iff.mpr (Value.read_eq_error_iff.mpr hoverflows)⟩

end ReadPlan

namespace Layer

variable {f : Faults} {s : Store} {l : Layer}

theorem fetch_decodes {size : FetchSize} {t : Table} (h : (l.fetch f s size).1 = .ok t) :
    ∃ o room warnings, l.state = some o ∧
      Table.ofRecords (l.plan o) f.codec l.reading room warnings (l.decodedByFetch f s size) = .ok t := by
  unfold decodedByFetch
  cases ho : l.state with
  | none =>
    unfold fetch at h
    rw [ho] at h
    cases h
  | some o =>
    cases size with
    | rows n =>
      rw [fetch_rows f s ho] at h
      obtain ⟨hroom, warnings, -, ht⟩ := fetchFrom_decodes h
      exact ⟨o, n, warnings, rfl, by simpa only [hroom, if_true] using ht⟩
    | all =>
      rw [fetch_all f s ho] at h
      obtain ⟨hroom, warnings, -, ht⟩ := fetchFrom_decodes h
      exact ⟨o, _, warnings, rfl, by simpa only [hroom, if_true] using ht⟩

theorem next_decodes {row : Row} (h : (l.next f s).1 = .ok (some row)) :
    ∃ o r, l.state = some o ∧ l.decoded f s .next = [r] ∧
      (l.plan o).decodeRow f.codec l.reading r = .ok row := by
  unfold next at h
  unfold decoded
  cases ho : l.state with
  | none => simp [ho] at h
  | some o =>
    rw [ho] at h
    simp only [Option.bind_some] at h ⊢
    generalize f.next s o.view = answer at h ⊢
    obtain ⟨_ | r, view⟩ := answer
    · cases h
    · refine ⟨o, r, rfl, rfl, ?_⟩
      simp only at h
      cases hrow : (l.plan o).decodeRow f.codec l.reading r with
      | error e =>
        rw [hrow] at h
        cases h
      | ok row =>
        rw [hrow] at h
        cases h
        rfl

theorem lookup_decodes {fid : Int} {row : Option Row} (h : (l.lookup f s fid).1 = .ok row) :
    ∃ o room warnings t, l.state = some o ∧
      Table.ofRecords (l.plan o) f.codec l.reading room warnings (l.decodedByLookup f s fid) = .ok t ∧
      t.row? 0 = row := by
  unfold lookup at h
  unfold decodedByLookup
  cases ho : l.state with
  | none => simp [ho] at h
  | some o =>
    rw [ho] at h
    simp only at h ⊢
    generalize f.setPredicate s 0 (o.view.setSpatial none)
      (some (fidPredicate (s.table o.view.table).fidColumn fid)) = answer at h ⊢
    obtain ⟨e | ⟨⟨⟩⟩, view⟩ := answer
    · cases h
    · simp only at h ⊢
      cases hfetch : ((l.withState { o with view }).fetch f s (.rows 1)).1 with
      | error e => rw [hfetch] at h; cases h
      | ok t =>
        rw [hfetch] at h
        cases h
        obtain ⟨o', room, warnings, ho', ht⟩ := fetch_decodes hfetch
        cases ho'
        exact ⟨o, room, warnings, t, rfl, ht, rfl⟩

theorem check_eq_error_iff {request : LayerRequest} :
    l.check f s request = .error .overflow ↔ ∃ o, l.state = some o ∧
      ∃ r ∈ l.decoded f s request, (l.plan o).check r = .error .overflow := by
  unfold check
  cases l.state with
  | none => simp
  | some o => simpa using forM_eq_error_iff

theorem read_of_check {o : OpenLayer} {request : LayerRequest} (h : l.check f s request = .ok ())
    (ho : l.state = some o) {r : Record} (hr : r ∈ l.decoded f s request) {name : String} {i : Nat}
    {kind : FieldKind} {subkind : Subkind}
    (hc : (name, .attribute i kind subkind) ∈ (l.plan o).columns) :
    ∃ v, Value.read kind subkind (r.data[i]?.getD .unset) = .ok v ∧
      ReadPlan.valueAt f.codec l.reading r (.attribute i kind subkind) = .ok v := by
  refine ⟨_, Value.read_eq_ok fun hover => ?_, rfl⟩
  have hrecord := ReadPlan.check_eq_error_iff.mpr ⟨name, i, kind, subkind, hc, hover⟩
  have hstop := check_eq_error_iff.mpr ⟨o, ho, r, hr, hrecord⟩
  rw [h] at hstop
  cases hstop

/-- Whatever a layer reads is made of the records that it decodes, and if these do not stop the program
the columns of their data hold the values that are read of these. -/
theorem reads_decode (f : Faults) (s : Store) (l : Layer) :
    (∀ row, (l.next f s).1 = .ok (some row) → ∃ o r, l.state = some o ∧
      l.decoded f s .next = [r] ∧ (l.plan o).decodeRow f.codec l.reading r = .ok row) ∧
    (∀ size t, (l.fetch f s size).1 = .ok t → ∃ o room warnings, l.state = some o ∧
      Table.ofRecords (l.plan o) f.codec l.reading room warnings (l.decoded f s (.fetch size)) = .ok t) ∧
    (∀ fid row, (l.lookup f s fid).1 = .ok row → ∃ o room warnings t, l.state = some o ∧
      Table.ofRecords (l.plan o) f.codec l.reading room warnings (l.decoded f s (.lookup fid)) = .ok t ∧
      t.row? 0 = row) ∧
    ∀ request o r name i kind subkind, l.check f s request = .ok () → l.state = some o →
      r ∈ l.decoded f s request → (name, .attribute i kind subkind) ∈ (l.plan o).columns →
      ∃ v, Value.read kind subkind (r.data[i]?.getD .unset) = .ok v ∧
        ReadPlan.valueAt f.codec l.reading r (.attribute i kind subkind) = .ok v :=
  ⟨fun _ => next_decodes, fun _ _ => fetch_decodes, fun _ _ => lookup_decodes,
    fun _ _ _ _ _ _ _ h ho hr hc => read_of_check h ho hr hc⟩

end Layer

namespace Workspace

variable {f : Faults} {A : RegionAlgebra} {w w' : Workspace} {ops : List Operation}

/-- An operation stops the program just if it has a layer decode a record with a datum that overflows
in one of the columns of its reads. -/
theorem attempt_eq_error_iff {op : Operation} :
    w.attempt f A op = .error .overflow ↔ ∃ name request l o r column i kind subkind,
      op = .layer name request ∧ w.layer? name = some l ∧ l.state = some o ∧
      r ∈ l.decoded f w.store request ∧
      (column, ColumnSource.attribute i kind subkind) ∈ (l.plan o).columns ∧
      Overflows kind (r.data[i]?.getD .unset) := by
  rw [attempt, map_eq_error_iff]
  constructor
  · intro h
    cases op with
    | layer name request =>
      unfold check at h
      cases hl : w.layer? name with
      | none => simp [hl] at h
      | some l =>
        simp only [hl] at h
        obtain ⟨o, ho, r, hr, hstop⟩ := Layer.check_eq_error_iff.mp h
        obtain ⟨column, i, kind, subkind, hcolumn, hdatum⟩ := ReadPlan.check_eq_error_iff.mp hstop
        exact ⟨name, request, l, o, r, column, i, kind, subkind, rfl, hl, ho, hr, hcolumn, hdatum⟩
    | _ => cases h
  · rintro ⟨name, request, l, o, r, column, i, kind, subkind, rfl, hl, ho, hr, hcolumn, hdatum⟩
    unfold check
    simp only [hl]
    exact Layer.check_eq_error_iff.mpr
      ⟨o, ho, r, hr, ReadPlan.check_eq_error_iff.mpr ⟨column, i, kind, subkind, hcolumn, hdatum⟩⟩

example :
    let w := empty.run .none .exact
      [.create "d" (some "c"),
        .createLayer "c" "t" ⟨[⟨"at", .dateTime, .none, 0, 0, true, false, none, false, none⟩], []⟩
          (some "u"),
        .view "u" (.create ⟨none, [.dateTime (Stamp.onMarchFirst 12 30 2386193)], []⟩),
        .openLayer "d" (.name "t") ⟨.readOnly, .empty, none, none⟩ "l"]
    w.attempt .none .exact (.layer "l" .next) = .error .overflow :=
  map_eq_error_iff.mpr (by decide +kernel)

/-- Operations that do not stop the program lead where runs do. -/
theorem execute_eq_ok_iff :
    w.execute f A ops = .ok w' ↔ w' = w.run f A ops ∧
      ∀ before op after, ops = before ++ op :: after → (w.run f A before).check f op = .ok () := by
  induction ops generalizing w with
  | nil => simp [execute, run, pure, Except.pure, eq_comm]
  | cons op ops ih =>
    have hrun : w.run f A (op :: ops) = (w.step f A op).run f A ops := rfl
    have hexecute : w.execute f A (op :: ops) =
        (w.attempt f A op).map (fun out => (out.map (·.2)).getD w) >>= fun w => w.execute f A ops := rfl
    rw [hrun, hexecute]
    cases hop : w.check f op with
    | error p =>
      rw [attempt, hop]
      refine iff_of_false (fun h => nomatch h) fun h => ?_
      have := h.2 [] op ops rfl
      rw [show w.run f A [] = w from rfl, hop] at this
      cases this
    | ok u =>
      rw [attempt, hop]
      refine (ih (w := w.step f A op)).trans (and_congr_right fun _ => ⟨fun h => ?_, fun h => ?_⟩)
      · rintro (_ | ⟨first, before⟩) next after heq
        · cases heq
          exact hop
        · cases heq
          exact h before next after rfl
      · exact fun before next after heq => h (op :: before) next after (by rw [heq]; rfl)

end Workspace

end FeatureLayer
