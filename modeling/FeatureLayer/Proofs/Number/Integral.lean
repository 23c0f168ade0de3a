import FeatureLayer.Proofs.Number

namespace FeatureLayer

namespace Binary

variable {F : Format} {x y : Binary F} {a b : Int}

theorem negative_ofInt (a : Int) : (ofInt a : Binary F).negative = decide (a < 0) :=
  negative_ofParts _ (Nat.lt_of_le_of_lt (nearest_le F _ _) (infinity_lt F))

theorem ofRat_intCast (a : Int) : (ofRat (a : Rat) : Binary F) = ofInt a := by
  simp [ofRat, ofInt]

def modulus (x : Binary F) : Rat :=
  mkRat (x.significand * (twoPow x.scale).1 : Nat) (twoPow x.scale).2

theorem value?_eq (x : Binary F) :
    x.value? = if x.isFinite then some (if x.negative then -x.modulus else x.modulus) else none :=
  rfl

theorem modulus_nonneg (x : Binary F) : 0 ≤ x.modulus := by
  rw [modulus, Rat.mkRat_eq_div]
  positivity

theorem modulus_congr (h : x.magnitude = y.magnitude) : x.modulus = y.modulus := by
  simp only [modulus, significand, scale, h]

theorem value?_neg (h : x.value? = some (a : Rat)) : (-x).value? = some ((-a : Int) : Rat) := by
  have hlt : x.magnitude < F.signBit := Nat.mod_lt _ (signBit_pos F)
  have hneg : (-x).negative = !x.negative := negative_ofParts _ hlt
  have hmagnitude : (-x).magnitude = x.magnitude := magnitude_ofParts _ hlt
  have hfinite : (-x).isFinite = x.isFinite := by rw [isFinite, isFinite, hmagnitude]
  rw [value?_eq] at h ⊢
  rw [hneg, hfinite, modulus_congr hmagnitude, Int.cast_neg]
  split at h
  next hf =>
    rw [if_pos hf, ← Option.some.inj h]
    cases x.negative <;> simp
  next => cases h

theorem nonpos_of_negative (hx : x.negative = true) (h : x.value? = some (a : Rat)) : a ≤ 0 := by
  rw [value?_eq, hx] at h
  split at h
  · have hle : (a : Rat) ≤ 0 := Option.some.inj h ▸ neg_nonpos.mpr x.modulus_nonneg
    exact_mod_cast hle
  · cases h

theorem value?_ofInt (h : a.natAbs < 2 ^ 53) : (ofInt a : Double).value? = some (a : Rat) := by
  rcases eq_or_ne a 0 with rfl | h0
  · decide +kernel
  have h0' : a.natAbs ≠ 0 := Int.natAbs_ne_zero.mpr h0
  have hL : a.natAbs.log2 < 53 := (Nat.log2_lt h0').mpr h
  have hbounds := significand_bounds h0' h
  have hnearest := nearest_double h0' h
  have hmagnitude : (ofInt a : Double).magnitude = nearest .double a.natAbs 1 :=
    magnitude_ofParts _ (Nat.lt_of_le_of_lt (nearest_le .double _ _) (infinity_lt .double))
  have hfraction : Nat.pow 2 Format.double.fraction = 2 ^ 52 := rfl
  have hinfinity : Format.double.infinity = 2047 * 2 ^ 52 := by decide
  have hleast : Format.double.least = -1074 := by decide
  have hfinite : (ofInt a : Double).isFinite = true := by
    rw [isFinite, decide_eq_true_eq, hmagnitude, hinfinity]
    omega
  have hsignificand : (ofInt a : Double).significand = a.natAbs * 2 ^ (52 - a.natAbs.log2) := by
    unfold significand
    simp only [hmagnitude, hfraction]
    rw [if_neg (by omega)]
    omega
  have hscale : (ofInt a : Double).scale = (a.natAbs.log2 : Int) - 52 := by
    rw [scale, hmagnitude, hfraction, hleast]
    omega
  have hmodulus : (ofInt a : Double).modulus = (a.natAbs : Rat) := by
    have hpow : ((2 ^ (52 - a.natAbs.log2) : Nat) : Rat) ≠ 0 := by positivity
    rw [modulus, hsignificand, hscale, twoPow_log2 (by omega), Rat.mkRat_eq_div, Nat.mul_one,
      Int.cast_natCast, Nat.cast_mul, mul_div_cancel_right₀ _ hpow]
  have habs : (a.natAbs : Rat) = |(a : Rat)| := (Nat.cast_natAbs a).trans Int.cast_abs
  rw [value?_eq, if_pos hfinite, hmodulus, negative_ofInt, habs]
  congr 1
  split
  next hneg => rw [abs_of_neg (by simpa using hneg), neg_neg]
  next hneg => rw [abs_of_nonneg (by simpa using hneg)]

theorem eq_of_ofInt_eq (ha : a.natAbs < 2 ^ 53) (hb : b.natAbs < 2 ^ 53)
    (h : (ofInt a : Double) = ofInt b) : a = b := by
  have hvalue := value?_ofInt ha
  rw [h, value?_ofInt hb, Option.some.injEq] at hvalue
  exact_mod_cast hvalue.symm

theorem add_of_values (hx : x.value? = some (a : Rat)) (hy : y.value? = some (b : Rat))
    (hzero : a + b = 0 → (x.negative && y.negative) = false) : x + y = ofInt (a + b) := by
  have hsum : (a : Rat) + b = ((a + b : Int) : Rat) := (Int.cast_add a b).symm
  show x.add y = _
  unfold add
  simp only [hx, hy, hsum, Int.cast_eq_zero]
  split
  next h =>
    rw [hzero h, h]
    simp [ofInt, nearest]
  next => exact ofRat_intCast _

theorem sub_of_values (hx : x.value? = some (a : Rat)) (hy : y.value? = some (b : Rat))
    (hzero : a = b → (x.negative && !y.negative) = false) : x - y = ofInt (a - b) := by
  have hneg : (-y).negative = !y.negative := negative_ofParts _ (Nat.mod_lt _ (signBit_pos F))
  exact add_of_values hx (value?_neg hy) fun h => hneg ▸ hzero (by omega)

theorem ofInt_add (ha : a.natAbs < 2 ^ 53) (hb : b.natAbs < 2 ^ 53) :
    (ofInt a + ofInt b : Double) = ofInt (a + b) := by
  refine add_of_values (value?_ofInt ha) (value?_ofInt hb) fun h => ?_
  simp only [negative_ofInt, Bool.and_eq_false_iff, decide_eq_false_iff_not]
  omega

theorem ofInt_sub (ha : a.natAbs < 2 ^ 53) (hb : b.natAbs < 2 ^ 53) :
    (ofInt a - ofInt b : Double) = ofInt (a - b) := by
  refine sub_of_values (value?_ofInt ha) (value?_ofInt hb) fun h => ?_
  simp [negative_ofInt, h]

theorem clamp_of_value (hx : x.value? = some (a : Rat)) (lo hi : Int) :
    x.clamp lo hi = max lo (min hi a) := by
  unfold clamp
  simp [hx]

end Binary

end FeatureLayer
