import FeatureLayer.Text.Character

namespace FeatureLayer.Text

theorem toNat_of_isDigit {c : Char} (h : c.isDigit = true) : 48 ≤ c.toNat ∧ c.toNat ≤ 57 := by
  simp only [Char.isDigit, Bool.and_eq_true, decide_eq_true_eq] at h
  exact ⟨UInt32.le_iff_toNat_le.mp h.1, UInt32.le_iff_toNat_le.mp h.2⟩

theorem toNat_of_isAlpha {c : Char} (h : c.isAlpha = true) :
    (65 ≤ c.toNat ∧ c.toNat ≤ 90) ∨ (97 ≤ c.toNat ∧ c.toNat ≤ 122) := by
  have hcases : (c.isUpper || c.isLower) = true := h
  rcases Bool.or_eq_true_iff.mp hcases with h | h
  · obtain ⟨hlo, hhi⟩ : c.val ≥ 65 ∧ c.val ≤ 90 := of_decide_eq_true h
    exact .inl ⟨UInt32.le_iff_toNat_le.mp hlo, UInt32.le_iff_toNat_le.mp hhi⟩
  · obtain ⟨hlo, hhi⟩ := (Bool.and_eq_true_iff (x := decide (c.val ≥ 97))).mp h
    exact .inr ⟨UInt32.le_iff_toNat_le.mp (of_decide_eq_true hlo),
      UInt32.le_iff_toNat_le.mp (of_decide_eq_true hhi)⟩

theorem isWhiteSpace_eq_false {c : Char} (h : 33 ≤ c.toNat ∧ c.toNat ≤ 126) : isWhiteSpace c = false := by
  simp [isWhiteSpace, inRanges]
  omega

theorem inRanges_eq_false_of_apart {rs ss : List (Nat × Nat)} {n : Nat}
    (h : (rs.all fun r => ss.all fun s => decide (r.2 < s.1 ∨ s.2 < r.1)) = true)
    (hr : inRanges rs n = true) : inRanges ss n = false := by
  obtain ⟨r, hr, hn⟩ := List.any_eq_true.mp hr
  refine List.any_eq_false.mpr fun s hs hn' => ?_
  have hapart := of_decide_eq_true (List.all_eq_true.mp (List.all_eq_true.mp h r hr) s hs)
  simp only [Bool.and_eq_true, decide_eq_true_eq] at hn hn'
  omega

theorem isWhiteSpace_eq_false_of_isAlphabetic {c : Char} (h : isAlphabetic c = true) :
    isWhiteSpace c = false := by
  unfold isAlphabetic at h
  split at h
  · have := toNat_of_isAlpha h
    exact isWhiteSpace_eq_false (by omega)
  · exact inRanges_eq_false_of_apart (by decide +kernel) h

theorem sameWord_refl (s : String) : sameWord s s = true := decide_eq_true rfl

theorem sameWord_comm (s t : String) : sameWord s t = sameWord t s := by
  simp only [sameWord, eq_comm]

theorem sameWord_trans {s t u : String} (h : sameWord s t = true) (h' : sameWord t u = true) :
    sameWord s u = true :=
  decide_eq_true ((of_decide_eq_true h).trans (of_decide_eq_true h'))

theorem sameWord_append_left (p s t : String) : sameWord (p ++ s) (p ++ t) = sameWord s t := by
  simp [sameWord]

end FeatureLayer.Text
