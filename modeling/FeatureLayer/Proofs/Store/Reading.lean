import FeatureLayer.Proofs.Constraints
import FeatureLayer.Store.View

namespace FeatureLayer.View

variable {t : FeatureTable} {v : View}

def pending (t : FeatureTable) (v : View) : List Record :=
  ((t.records.after v.position).filter (v.admits ·.2)).map (·.2)

theorem selected_eq (t : FeatureTable) (v : View) :
    v.selected t = (t.records.entries.filter (v.admits ·.2)).map (·.2) := by
  rw [selected, FidMap.values, List.filter_map]
  rfl

theorem selected_predicate (t : FeatureTable) (v : View) (p : Predicate) :
    { v.rewind with predicate := some p }.selected t =
      ({ v with predicate := none }.selected t).filter
        fun r => p.holds (r.fid.getD Record.missingFid) r.data := by
  rw [selected, selected, List.filter_filter]
  rfl

theorem selected_fids (hs : t.Sound) (v : View) :
    ∃ fids : List Int, (v.selected t).map (·.fid) = fids.map some ∧ fids.Pairwise (· < ·) := by
  refine ⟨(t.records.entries.filter (v.admits ·.2)).map (·.1), ?_, ?_⟩
  · rw [selected_eq, List.map_map, List.map_map]
    exact List.map_congr_left fun e he => hs.keyed e (List.mem_filter.mp he).1
  · exact List.pairwise_map.mpr (t.records.sorted.filter _)

theorem pending_eq_selected (h : v.position = none) : v.pending t = v.selected t := by
  rw [selected_eq, pending, h]
  rfl

theorem pending_le_entries (t : FeatureTable) (v : View) :
    (v.pending t).length ≤ t.records.entries.length := by
  rw [pending, List.length_map]
  refine Nat.le_trans (List.length_filter_le _ _) ?_
  cases v.position with
  | none => exact Nat.le_refl _
  | some k => exact List.length_filter_le _ _

theorem next_of_pending_eq_cons {r : Record} {rs : List Record} (h : v.pending t = r :: rs) :
    ∃ p, v.next t = (some (v.project r), { v with position := p }) ∧
      ({ v with position := p } : View).pending t = rs := by
  cases hf : (t.records.after v.position).find? fun e => v.admits e.2 with
  | none =>
    have hnil : (t.records.after v.position).filter (v.admits ·.2) = [] := by
      rw [List.filter_eq_nil_iff]
      exact List.find?_eq_none.mp hf
    rw [pending, hnil] at h
    cases h
  | some e =>
    have hsplit := FidMap.find?_after hf
    rw [pending, hsplit, List.map_cons] at h
    obtain ⟨rfl, rfl⟩ := List.cons.inj h
    refine ⟨some e.1, ?_, rfl⟩
    unfold next
    rw [hf]

theorem next_of_pending_eq_nil (h : v.pending t = []) :
    ∃ p, v.next t = (none, { v with position := p }) ∧
      ({ v with position := p } : View).pending t = [] := by
  have hf : (t.records.after v.position).find? (fun e => v.admits e.2) = none := by
    rw [List.find?_eq_none]
    exact List.filter_eq_nil_iff.mp (List.map_eq_nil_iff.mp h)
  refine ⟨t.records.lastFid? <|> v.position, ?_, ?_⟩
  · unfold next
    rw [hf]
  · rw [pending, FidMap.after_lastFid]
    rfl

theorem seek_spec (hs : t.Sound) (v : View) (k : Nat) :
    ∃ p, v.seek t k = (.ok (), { v with position := p }) ∧
      ({ v with position := p } : View).pending t = (v.selected t).drop k := by
  cases k with
  | zero =>
    refine ⟨none, ?_, ?_⟩
    · simp [seek]
    · rw [pending_eq_selected rfl]
      rfl
  | succ j =>
    refine ⟨some (((v.selected t).map fun r => r.fid.getD Record.missingFid)[j]?.getD
      FeatureTable.maxFid), ?_, ?_⟩
    · unfold seek
      rw [if_neg (by omega)]
      simp only
      rw [if_neg (by omega)]
      rfl
    · have hdrop : ∀ n, (v.selected t).drop n =
          ((t.records.entries.filter (v.admits ·.2)).drop n).map (·.2) := by
        intro n
        rw [selected_eq, List.map_drop]
      rw [hdrop, selected_eq, List.map_map, List.getElem?_map]
      cases hj : (t.records.entries.filter (v.admits ·.2))[j]? with
      | some e =>
        -- the record of an index lies under the identifier that it bears
        have he : e ∈ t.records.entries := (List.mem_filter.mp (List.mem_of_getElem? hj)).1
        have hfid : ((some e).map ((fun r => r.fid.getD Record.missingFid) ∘ (·.2))).getD
            FeatureTable.maxFid = e.1 := by simp [hs.keyed e he]
        rw [pending, hfid]
        exact congrArg (List.map (·.2)) (FidMap.filter_after_getElem? hj)
      | none =>
        have hbound : t.records.after (some FeatureTable.maxFid) = [] :=
          FidMap.after_of_forall_lt fun e he => Int.le_of_lt (hs.bounded e he)
        have hlen := List.getElem?_eq_none_iff.mp hj
        rw [List.drop_eq_nil_of_le (by omega), pending]
        simp only [Option.map_none, Option.getD_none]
        rw [hbound]
        rfl

end FeatureLayer.View
