import FeatureLayer.Proofs.Number
/-!
How doubles round integers. Rounding keeps the order, leaves integers up to `2 ^ 53` as they are, and
up to `2 ^ 63` makes equal only what lies within `1024`.
-/

namespace FeatureLayer

theorem roundDiv_mono {m n : Nat} (d : Nat) (h : m ≤ n) : roundDiv m d ≤ roundDiv n d := by
  have hq : m / d ≤ n / d := Nat.div_le_div_right h
  have hm := Nat.div_add_mod m d
  have hn := Nat.div_add_mod n d
  simp only [roundDiv]
  rcases Nat.eq_or_lt_of_le hq with heq | hlt
  · rw [heq] at hm ⊢
    split <;> split <;> omega
  · split <;> split <;> omega

theorem roundDiv_bounds {n d : Nat} (hd : 0 < d) :
    2 * n ≤ 2 * (d * roundDiv n d) + d ∧ 2 * (d * roundDiv n d) ≤ 2 * n + d := by
  have hn := Nat.div_add_mod n d
  have hr := Nat.mod_lt n hd
  simp only [roundDiv]
  split
  · rw [Nat.mul_add]
    omega
  · omega

theorem div_le_roundDiv (n d : Nat) : n / d ≤ roundDiv n d ∧ roundDiv n d ≤ n / d + 1 := by
  simp only [roundDiv]
  split <;> omega

namespace Binary

/-- The significand that an integer is rounded to. Integers of fewer digits fill it up with zeros. -/
def roundedSignificand (n : Nat) : Nat := roundDiv (n * 2 ^ (52 - n.log2)) (2 ^ (n.log2 - 52))

theorem roundedSignificand_bounds {n : Nat} (h0 : n ≠ 0) :
    2 ^ 52 ≤ roundedSignificand n ∧ roundedSignificand n ≤ 2 ^ 53 := by
  rcases Nat.lt_or_ge n.log2 53 with hL | hL
  · have hbounds := significand_bounds h0 ((Nat.log2_lt h0).mp hL)
    have hd : n.log2 - 52 = 0 := by omega
    rw [roundedSignificand, hd, Nat.pow_zero, roundDiv_one]
    omega
  · have hle : 2 ^ n.log2 ≤ n := Nat.log2_self_le h0
    have hlt : n < 2 ^ (n.log2 + 1) := Nat.lt_log2_self
    have hpos : 0 < 2 ^ (n.log2 - 52) := Nat.two_pow_pos _
    have hk : 52 - n.log2 = 0 := by omega
    have hround := div_le_roundDiv n (2 ^ (n.log2 - 52))
    have hlow : 2 ^ 52 ≤ n / 2 ^ (n.log2 - 52) := by
      rw [Nat.le_div_iff_mul_le hpos, ← Nat.pow_add]
      exact Nat.le_trans (Nat.pow_le_pow_right (by decide) (by omega)) hle
    have hhigh : n / 2 ^ (n.log2 - 52) < 2 ^ 53 := by
      rw [Nat.div_lt_iff_lt_mul hpos, ← Nat.pow_add]
      exact Nat.lt_of_lt_of_le hlt (Nat.pow_le_pow_right (by decide) (by omega))
    rw [roundedSignificand, hk, Nat.pow_zero, Nat.mul_one]
    omega

/-- The exponent field of an integer shows its length; the significand carries into it when it is
rounded up to the next power of two. -/
theorem nearest_double_eq {n : Nat} (h0 : n ≠ 0) (h : n ≤ 2 ^ 63) :
    nearest .double n 1 = (n.log2 + 1022) * 2 ^ 52 + roundedSignificand n := by
  rcases Nat.lt_or_ge n (2 ^ 53) with hn | hn
  · have hL : n.log2 < 53 := (Nat.log2_lt h0).mpr hn
    have hd : n.log2 - 52 = 0 := by omega
    rw [nearest_double h0 hn, roundedSignificand, hd, Nat.pow_zero, roundDiv_one]
  · have hL : 53 ≤ n.log2 := Nat.le_of_not_lt fun hlt => Nat.not_lt.mpr hn ((Nat.log2_lt h0).mp hlt)
    have hL' : n.log2 < 64 := (Nat.log2_lt h0).mpr (by omega)
    have hbounds := roundedSignificand_bounds h0
    have hscale : max ((n.log2 : Int) - (52 : Nat)) (-1074) = ((n.log2 - 52 : Nat) : Int) := by omega
    have hsteps : (((n.log2 - 52 : Nat) : Int) - -1074).toNat = n.log2 + 1022 := by omega
    have hpow : twoPow ((n.log2 - 52 : Nat) : Int) = (2 ^ (n.log2 - 52), 1) := by
      simp [twoPow]
    have hk : 52 - n.log2 = 0 := by omega
    have hleast : Format.double.least = -1074 := by decide
    have hinfinity : Format.double.infinity = 2047 * 2 ^ 52 := by decide
    have hfraction : Format.double.fraction = 52 := rfl
    unfold nearest
    rw [if_neg h0, floorLog2_one h0, hleast, hinfinity, hfraction]
    simp only [hscale, hpow, hsteps, Nat.one_mul, Nat.mul_one]
    rw [roundedSignificand, hk, Nat.pow_zero, Nat.mul_one] at hbounds ⊢
    refine Nat.min_eq_right ?_
    simp only [Nat.pow_eq]
    omega

theorem log2_mono {m n : Nat} (h : m ≤ n) : m.log2 ≤ n.log2 := by
  rw [Nat.log2_eq_log_two, Nat.log2_eq_log_two]
  exact Nat.log_mono_right h

theorem nearest_double_mono {m n : Nat} (h : m ≤ n) (hn : n ≤ 2 ^ 63) :
    nearest .double m 1 ≤ nearest .double n 1 := by
  rcases Nat.eq_zero_or_pos m with rfl | hm
  · exact Nat.zero_le _
  have hm0 : m ≠ 0 := by omega
  have hn0 : n ≠ 0 := by omega
  have hmq := roundedSignificand_bounds hm0
  have hnq := roundedSignificand_bounds hn0
  rw [nearest_double_eq hm0 (Nat.le_trans h hn), nearest_double_eq hn0 hn]
  rcases Nat.eq_or_lt_of_le (log2_mono h) with hL | hL
  · -- of one length, rounded at the same place
    have hq : roundedSignificand m ≤ roundedSignificand n := by
      rw [roundedSignificand, roundedSignificand, hL]
      exact roundDiv_mono _ (Nat.mul_le_mul_right _ h)
    omega
  · omega

theorem nearest_double_pos {n : Nat} (h0 : n ≠ 0) (h : n ≤ 2 ^ 63) : 0 < nearest .double n 1 := by
  have := roundedSignificand_bounds h0
  rw [nearest_double_eq h0 h]
  omega

def rounded (n : Nat) : Nat := 2 ^ (n.log2 - 52) * roundDiv n (2 ^ (n.log2 - 52))

/-- Below `2 ^ 53` nothing is lost, and above it half of the last place at most. -/
theorem rounded_bounds {n : Nat} (h : n ≤ 2 ^ 63) : n ≤ rounded n + 512 ∧ rounded n ≤ n + 512 := by
  by_cases htop : n = 2 ^ 63
  · subst htop
    decide +kernel
  · have hbounds := roundDiv_bounds (n := n) (Nat.two_pow_pos (n.log2 - 52))
    have hlast : 2 ^ (n.log2 - 52) ≤ 2 ^ 10 := by
      refine Nat.pow_le_pow_right (by decide) ?_
      have hL : n.log2 ≤ 62 := by
        by_cases h0 : n = 0
        · subst h0
          decide
        · have := (Nat.log2_lt h0).mpr (show n < 2 ^ 63 by omega)
          omega
      omega
    rw [rounded]
    omega

theorem rounded_eq {n : Nat} (h : 52 ≤ n.log2) :
    rounded n = 2 ^ (n.log2 - 52) * roundedSignificand n := by
  have hk : 52 - n.log2 = 0 := by omega
  rw [rounded, roundedSignificand, hk, Nat.pow_zero, Nat.mul_one]

theorem eq_of_nearest_double_eq {m n : Nat} (hm : m < 2 ^ 53) (hn : n ≤ 2 ^ 63)
    (h : nearest .double m 1 = nearest .double n 1) : m = n := by
  rcases Nat.lt_or_ge n (2 ^ 53) with hlt | hge
  · exact nearest_double_injective (by omega) (by omega) h
  · have htop : nearest .double (2 ^ 53) 1 ≤ nearest .double n 1 := nearest_double_mono hge hn
    have hle : nearest .double m 1 ≤ nearest .double (2 ^ 53) 1 :=
      nearest_double_mono (by omega) (by decide)
    have := nearest_double_injective (m := m) (n := 2 ^ 53) (by omega) (by omega) (by omega)
    omega

theorem rounded_eq_of_nearest_double_eq {m n : Nat} (hm : 2 ^ 53 ≤ m) (hle : m ≤ n)
    (hn : n ≤ 2 ^ 63) (h : nearest .double m 1 = nearest .double n 1) : rounded m = rounded n := by
  have hm0 : m ≠ 0 := by omega
  have hn0 : n ≠ 0 := by omega
  have hmq := roundedSignificand_bounds hm0
  have hnq := roundedSignificand_bounds hn0
  have hmL : 52 ≤ m.log2 := Nat.le_of_lt_succ <| Nat.lt_of_not_le fun hL =>
    Nat.not_lt.mpr hm ((Nat.log2_lt hm0).mp (by omega))
  have hL := log2_mono hle
  rw [nearest_double_eq hm0 (Nat.le_trans hle hn), nearest_double_eq hn0 hn] at h
  rw [rounded_eq hmL, rounded_eq (Nat.le_trans hmL hL)]
  rcases Nat.eq_or_lt_of_le hL with hL | hL
  · have hq : roundedSignificand m = roundedSignificand n := by omega
    rw [hL, hq]
  · -- the smaller is rounded up to the power of two that the greater is rounded down to
    have hnext : n.log2 = m.log2 + 1 := by omega
    have hmtop : roundedSignificand m = 2 ^ 53 := by omega
    have hnbottom : roundedSignificand n = 2 ^ 52 := by omega
    rw [hmtop, hnbottom, hnext, ← Nat.pow_add, ← Nat.pow_add]
    congr 1
    omega

theorem near_of_nearest_double_eq {m n : Nat} (hm : 2 ^ 53 ≤ m) (hle : m ≤ n) (hn : n ≤ 2 ^ 63)
    (h : nearest .double m 1 = nearest .double n 1) : n ≤ m + 1024 := by
  have heq := rounded_eq_of_nearest_double_eq hm hle hn h
  have := rounded_bounds (Nat.le_trans hle hn)
  have := rounded_bounds hn
  omega

variable {a b : Int}

def integerKey (a : Int) : Int :=
  if a < 0 then -(nearest .double a.natAbs 1 : Int) else nearest .double a.natAbs 1

theorem integerKey_mono (hab : a ≤ b) (ha : a.natAbs ≤ 2 ^ 63) (hb : b.natAbs ≤ 2 ^ 63) :
    integerKey a ≤ integerKey b := by
  unfold integerKey
  split
  · split
    · have : nearest .double b.natAbs 1 ≤ nearest .double a.natAbs 1 :=
        nearest_double_mono (by omega) ha
      omega
    · omega
  · rw [if_neg (by omega)]
    have : nearest .double a.natAbs 1 ≤ nearest .double b.natAbs 1 :=
      nearest_double_mono (by omega) hb
    omega

theorem ofInt_eq_iff : (ofInt a : Double) = ofInt b ↔
    (a < 0 ↔ b < 0) ∧ nearest .double a.natAbs 1 = nearest .double b.natAbs 1 := by
  have hlt : ∀ n : Int, nearest .double n.natAbs 1 < Format.double.signBit := fun n =>
    Nat.lt_of_le_of_lt (nearest_le .double _ _) (infinity_lt .double)
  constructor
  · intro h
    have hsign := congrArg Binary.negative h
    have hmagnitude := congrArg Binary.magnitude h
    simp only [ofInt, negative_ofParts _ (hlt _), magnitude_ofParts _ (hlt _), decide_eq_decide]
      at hsign hmagnitude
    exact ⟨hsign, hmagnitude⟩
  · rintro ⟨hsign, hmagnitude⟩
    rw [ofInt, ofInt, hmagnitude, decide_eq_decide.mpr hsign]

theorem integerKey_eq_iff (ha : a.natAbs ≤ 2 ^ 63) (hb : b.natAbs ≤ 2 ^ 63) :
    integerKey a = integerKey b ↔ (ofInt a : Double) = ofInt b := by
  -- the double of a negative integer is not zero
  have hpos : ∀ n : Int, n.natAbs ≤ 2 ^ 63 → n < 0 → 0 < nearest .double n.natAbs 1 :=
    fun n h hn => nearest_double_pos (by omega) h
  have hpa := hpos a ha
  have hpb := hpos b hb
  rw [ofInt_eq_iff]
  unfold integerKey
  split <;> split <;> omega

theorem compare?_ofInt_eq (ha : a.natAbs ≤ 2 ^ 63) (hb : b.natAbs ≤ 2 ^ 63) :
    (ofInt a : Double).compare? (ofInt b) =
      some (if (ofInt a : Double) = ofInt b then .eq else compare a b) := by
  have hkey : (ofInt a : Double).compare? (ofInt b) = some (compare (integerKey a) (integerKey b)) :=
    compare?_ofInt a b
  have hiff := integerKey_eq_iff ha hb
  rw [hkey]
  congr 1
  split
  next h => exact Std.compare_eq_iff_eq.mpr (hiff.mpr h)
  next h =>
    have hne : integerKey a ≠ integerKey b := fun hk => h (hiff.mp hk)
    rcases Int.lt_trichotomy a b with hab | rfl | hab
    · have := integerKey_mono (Int.le_of_lt hab) ha hb
      rw [Int.compare_eq_lt.mpr hab, Int.compare_eq_lt.mpr (by omega)]
    · exact absurd rfl h
    · have := integerKey_mono (Int.le_of_lt hab) hb ha
      rw [Int.compare_eq_gt.mpr hab, Int.compare_eq_gt.mpr (by omega)]

/-- Two integers of 64 bits have one double only beyond `2 ^ 53` and within `1024`. -/
theorem near_of_ofInt_eq (ha : a.natAbs ≤ 2 ^ 63) (hb : b.natAbs ≤ 2 ^ 63)
    (h : (ofInt a : Double) = ofInt b) :
    a = b ∨ 2 ^ 53 ≤ a.natAbs ∧ 2 ^ 53 ≤ b.natAbs ∧ (a - b).natAbs ≤ 1024 := by
  obtain ⟨hsign, hnearest⟩ := ofInt_eq_iff.mp h
  rcases Nat.lt_or_ge a.natAbs (2 ^ 53) with hlt | hage
  · have := eq_of_nearest_double_eq hlt hb hnearest
    omega
  rcases Nat.lt_or_ge b.natAbs (2 ^ 53) with hlt | hbge
  · have := eq_of_nearest_double_eq hlt ha hnearest.symm
    omega
  · refine .inr ⟨hage, hbge, ?_⟩
    rcases Nat.le_total a.natAbs b.natAbs with hle | hle
    · have := near_of_nearest_double_eq hage hle hb hnearest
      omega
    · have := near_of_nearest_double_eq hbge hle ha hnearest.symm
      omega

end Binary

end FeatureLayer
