import FeatureLayer.Proofs.Store.Work

namespace FeatureLayer

theorem Record.given?_of_fid {r : Record} {k : Int} (h : r.fid = some k)
    (hk : k ≠ Record.missingFid) : r.given? = some k := by
  simp [given?, h, fidOf, hk]

namespace FeatureTable

variable {t t' : FeatureTable} {r r' : Record} {k : Int}

def filled (t : FeatureTable) (k : Int) (r : Record) : Record :=
  { r with fid := some k, data := List.zipWith fill t.schema.fields r.data }

def storing (t : FeatureTable) (k : Int) (r : Record) : FeatureTable :=
  { t with records := t.records.insert k (t.filled k r), nextFid := max t.nextFid (k + 1) }

theorem eq_of_prepare (h : t.prepare r = .ok r') :
    r' = { r with data := List.zipWith fill t.schema.fields r.data } := by
  unfold prepare at h
  split at h
  · cases h
  · simp only at h
    split at h <;> cases h
    rfl

theorem storing_of_insert (hc : t.Counted) (h : t.insert r = .ok (k, t')) :
    k = r.given?.getD t.nextFid ∧ t.records.find? k = none ∧ t' = t.storing k r := by
  obtain ⟨r', hp, hk, hg, -, ht⟩ := insert_ok h
  have habsent : t.records.contains k = false := by
    cases hgiven : r.given? with
    | none => exact hc.not_contains hgiven h
    | some n => exact hg (by simp [hgiven])
  refine ⟨hk, ?_, ?_⟩
  · simpa [FidMap.contains_eq_isSome] using habsent
  · rw [ht, eq_of_prepare hp]
    rfl

theorem storing_of_replace (hc : t.Counted) (h : t.replace r = .ok (k, t')) :
    k = r.fid.getD Record.missingFid ∧ (t.records.find? k).isSome ∧ t' = t.storing k r := by
  obtain ⟨r', hp, hk, hin, ht⟩ := replace_ok h
  obtain ⟨x, hx, hxk⟩ := FidMap.contains_iff.mp hin
  have hlt := hc x hx
  refine ⟨hk, by rwa [← FidMap.contains_eq_isSome], ?_⟩
  rw [ht, eq_of_prepare hp, storing, Int.max_eq_left (by omega)]
  rfl

theorem storing_of_upsert (hc : t.Counted) (hr : ∀ n, r.fid = some n → n ≠ Record.missingFid)
    (h : t.upsert r = .ok (k, t')) : k = r.given?.getD t.nextFid ∧ t' = t.storing k r := by
  unfold upsert at h
  split at h
  next hin =>
    obtain ⟨n, hn, -⟩ := Option.any_eq_true _ _ |>.mp hin
    obtain ⟨hk, -, ht⟩ := storing_of_replace hc h
    refine ⟨?_, ht⟩
    rw [Record.given?_of_fid hn (hr n hn), hk, hn]
    rfl
  next =>
    obtain ⟨hk, -, ht⟩ := storing_of_insert hc h
    exact ⟨hk, ht⟩

theorem find?_storing (t : FeatureTable) (k : Int) (r : Record) (j : Int) :
    (t.storing k r).records.find? j = if j = k then some (t.filled k r) else t.records.find? j :=
  FidMap.find?_insert _ _ _ _

end FeatureTable

theorem View.write_cases (t : FeatureTable) (v : View) (capability : LayerCapability)
    (method : String) (act : FeatureTable → Except FeatureTable.Rejection (Int × FeatureTable)) :
    (∃ e d, v.write t capability method act = (.error e, { v with lastError := d }, t)) ∨
      ∃ k t', v.writable = true ∧ act t = .ok (k, t') ∧
        v.write t capability method act = (.ok k, v, t') := by
  unfold write
  simp only
  split
  · exact .inl ⟨_, _, rfl⟩
  next hw =>
    split
    · exact .inl ⟨_, _, rfl⟩
    · cases ha : act t with
      | error e => exact .inl ⟨_, _, rfl⟩
      | ok p => exact .inr ⟨p.1, p.2, by simpa using hw, rfl, rfl⟩

theorem Store.setTable_of_le {s : Store} {i : Nat} (h : s.tables.length ≤ i) (t : FeatureTable) :
    s.setTable i t = s := by
  rw [setTable, List.set_eq_of_length_le h]

theorem Store.setTable_table (s : Store) (i : Nat) : s.setTable i (s.table i) = s := by
  by_cases hi : i < s.tables.length
  · simp [setTable, table, hi]
  · exact setTable_of_le (Nat.le_of_not_lt hi) _

end FeatureLayer
