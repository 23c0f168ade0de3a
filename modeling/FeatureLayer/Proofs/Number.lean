import FeatureLayer.Number.Decimal
import Mathlib
/-!
Integers as doubles. Their decimal text reads back as the double that they convert to, and up to
`2 ^ 53` no two of them convert to one.
-/

namespace FeatureLayer

theorem toList_toString (n : Int) :
    (toString n).toList = (if n < 0 then ['-'] else []) ++ Nat.toDigits 10 n.natAbs := by
  cases n with
  | ofNat m =>
    have h : toString (Int.ofNat m) = Nat.repr m := rfl
    rw [h]
    simp [Nat.repr]
  | negSucc m =>
    have h : toString (Int.negSucc m) = "-" ++ Nat.repr (m + 1) := rfl
    rw [h, if_pos (by omega)]
    simp [Nat.repr]

theorem isDigit_of_mem_digits {n : Nat} {c : Char} (h : c ∈ Nat.toDigits 10 n) : c.isDigit = true :=
  Nat.isDigit_of_mem_toDigits (by omega) (by omega) h

theorem toLower_of_isDigit {c : Char} (h : c.isDigit = true) : c.toLower = c := by
  simp only [Char.isDigit, Bool.and_eq_true, decide_eq_true_eq] at h
  rw [Char.toLower, dif_neg]
  rintro ⟨hupper, -⟩
  have h₁ := UInt32.le_iff_toNat_le.mp h.2
  have h₂ := UInt32.le_iff_toNat_le.mp hupper
  simp at h₁ h₂
  omega

namespace Binary

variable {F : Format}

theorem ofDecimal_nat (negative : Bool) (n length : Nat) :
    (ofDecimal negative n length 0 : Binary F) = ofParts negative (nearest F n 1) := by
  unfold ofDecimal
  by_cases hn : n = 0
  · simp [hn, nearest]
  · have hfar : ¬(n = 0 ∨ (0 : Int) + length < -(Nat.pow 2 F.exponent : Int)) := by omega
    have hfar' : ¬((Nat.pow 2 F.exponent : Int) < 0) := by omega
    simp only [hfar, hfar', if_false]
    simp [tenPow]

theorem readUnsigned_digits (negative : Bool) (n : Nat) :
    (readUnsigned negative (Nat.toDigits 10 n) : Option (Binary F)) =
      some (ofParts negative (nearest F n 1)) := by
  have hdigits : ∀ c ∈ Nat.toDigits 10 n, c.isDigit = true := fun c => isDigit_of_mem_digits
  have htake : (Nat.toDigits 10 n).takeWhile Char.isDigit = Nat.toDigits 10 n :=
    List.takeWhile_eq_self_iff.mpr hdigits
  have hdrop : (Nat.toDigits 10 n).dropWhile Char.isDigit = [] :=
    List.dropWhile_eq_nil_iff.mpr hdigits
  have hne : (Nat.toDigits 10 n).isEmpty = false := by simp [Nat.toDigits_ne_nil]
  unfold readUnsigned
  simp only [htake, hdrop, List.append_nil, hne]
  simp [readExponent, Nat.ofDigitChars_ten_toDigits, ofDecimal_nat]

theorem parse?_toString (n : Int) : (parse? (toString n).toList : Option (Binary F)) = some (ofInt n) := by
  obtain ⟨c, cs, hcs⟩ := List.exists_cons_of_ne_nil (Nat.toDigits_ne_nil (n := n.natAbs) (b := 10))
  have hc : c.isDigit = true := isDigit_of_mem_digits (hcs ▸ List.mem_cons_self)
  -- a digit begins neither a sign nor a word
  have hfirst : c ≠ '-' ∧ c ≠ '+' ∧ c ≠ 'i' ∧ c ≠ 'n' := by
    refine ⟨?_, ?_, ?_, ?_⟩ <;> rintro rfl <;> exact absurd hc (by decide)
  have hlower := toLower_of_isDigit hc
  have hread := readUnsigned_digits (F := F) (decide (n < 0)) n.natAbs
  rw [toList_toString, ofInt]
  unfold parse?
  by_cases hn : n < 0
  · simp [hn, hcs, hlower, hfirst] at hread ⊢
    exact hread
  · simp [hn, hcs, hlower, hfirst] at hread ⊢
    exact hread

theorem magnitude_ofParts (negative : Bool) {m : Nat} (h : m < F.signBit) :
    (ofParts negative m : Binary F).magnitude = m := by
  have hm : m % F.signBit = m := Nat.mod_eq_of_lt h
  unfold magnitude ofParts
  cases negative <;> simp [hm]

theorem negative_ofParts (negative : Bool) {m : Nat} (h : m < F.signBit) :
    (ofParts negative m : Binary F).negative = negative := by
  have hm : m % F.signBit = m := Nat.mod_eq_of_lt h
  unfold Binary.negative ofParts
  cases negative <;> simp [hm, h]

theorem nearest_le (F : Format) (n d : Nat) : nearest F n d ≤ F.infinity := by
  unfold nearest
  split
  · omega
  · exact Nat.min_le_left _ _

theorem infinity_lt (F : Format) : F.infinity < F.signBit := by
  have h₁ : 0 < Nat.pow 2 F.exponent := Nat.pow_pos (by decide)
  have h₂ : 0 < Nat.pow 2 F.fraction := Nat.pow_pos (by decide)
  have hsign : F.signBit = Nat.pow 2 F.exponent * Nat.pow 2 F.fraction := by
    rw [Nat.mul_comm]
    exact Nat.pow_add 2 F.fraction F.exponent
  rw [hsign, Format.infinity]
  exact Nat.mul_lt_mul_of_pos_right (by omega) h₂

theorem compare?_ofInt (a b : Int) :
    (ofInt a : Binary F).compare? (ofInt b) =
      some (compare (if a < 0 then -(nearest F a.natAbs 1 : Int) else nearest F a.natAbs 1)
        (if b < 0 then -(nearest F b.natAbs 1 : Int) else nearest F b.natAbs 1)) := by
  have hlt : ∀ n : Int, nearest F n.natAbs 1 < F.signBit := fun n =>
    Nat.lt_of_le_of_lt (nearest_le F _ _) (infinity_lt F)
  have hnan : ∀ n : Int, (ofInt n : Binary F).isNaN = false := by
    intro n
    have := nearest_le F n.natAbs 1
    simp [isNaN, ofInt, magnitude_ofParts _ (hlt n)]
    omega
  have hkey : ∀ n : Int, (ofInt n : Binary F).key =
      if n < 0 then -(nearest F n.natAbs 1 : Int) else nearest F n.natAbs 1 := by
    intro n
    simp [key, ofInt, magnitude_ofParts _ (hlt n), negative_ofParts _ (hlt n)]
  simp [compare?, hnan, hkey]

theorem floorLog2_one {n : Nat} (h0 : n ≠ 0) : floorLog2 n 1 = n.log2 := by
  have hle : 2 ^ n.log2 ≤ n := Nat.log2_self_le h0
  have hp : twoPow (n.log2 : Int) = (2 ^ n.log2, 1) := by simp [twoPow]
  have hone : Nat.log2 1 = 0 := rfl
  simp [floorLog2, hone, hp, hle]

theorem roundDiv_one (n : Nat) : roundDiv n 1 = n := by
  simp [roundDiv]
  omega

theorem significand_bounds {n : Nat} (h0 : n ≠ 0) (h : n < 2 ^ 53) :
    2 ^ 52 ≤ n * 2 ^ (52 - n.log2) ∧ n * 2 ^ (52 - n.log2) < 2 ^ 53 := by
  have hL : n.log2 < 53 := (Nat.log2_lt h0).mpr h
  have hle : 2 ^ n.log2 ≤ n := Nat.log2_self_le h0
  have hlt : n < 2 ^ (n.log2 + 1) := Nat.lt_log2_self
  have hpos : 0 < 2 ^ (52 - n.log2) := Nat.pow_pos (by decide)
  constructor
  · calc 2 ^ 52 = 2 ^ n.log2 * 2 ^ (52 - n.log2) := by rw [← Nat.pow_add]; congr 1; omega
      _ ≤ n * 2 ^ (52 - n.log2) := Nat.mul_le_mul_right _ hle
  · calc n * 2 ^ (52 - n.log2) < 2 ^ (n.log2 + 1) * 2 ^ (52 - n.log2) :=
          Nat.mul_lt_mul_of_pos_right hlt hpos
      _ = 2 ^ 53 := by rw [← Nat.pow_add]; congr 1; omega

theorem twoPow_log2 {n : Nat} (h : n ≤ 52) : twoPow ((n : Int) - 52) = (1, 2 ^ (52 - n)) := by
  unfold twoPow
  by_cases hn : n = 52
  · subst hn
    rfl
  · have hneg : (-((n : Int) - 52)).toNat = 52 - n := by omega
    rw [if_neg (by omega), hneg]
    rfl

theorem nearest_double {n : Nat} (h0 : n ≠ 0) (h : n < 2 ^ 53) :
    nearest .double n 1 = (n.log2 + 1022) * 2 ^ 52 + n * 2 ^ (52 - n.log2) := by
  have hL : n.log2 < 53 := (Nat.log2_lt h0).mpr h
  have hbounds := significand_bounds h0 h
  have hscale : max ((n.log2 : Int) - (52 : Nat)) (-1074) = (n.log2 : Int) - 52 := by omega
  have hsteps : ((n.log2 : Int) - 52 - -1074).toNat = n.log2 + 1022 := by omega
  have hleast : Format.double.least = -1074 := by decide
  have hinfinity : Format.double.infinity = 2047 * 2 ^ 52 := by decide
  have hfraction : Format.double.fraction = 52 := rfl
  unfold nearest
  rw [if_neg h0, floorLog2_one h0, hleast, hinfinity, hfraction]
  simp only [hscale]
  rw [twoPow_log2 (by omega), hsteps]
  simp only [Nat.one_mul, roundDiv_one]
  refine Nat.min_eq_right ?_
  simp only [Nat.pow_eq]
  omega

theorem nearest_double_cases {n : Nat} (h : n ≤ 2 ^ 53) :
    (n = 0 ∧ nearest .double n 1 = 0) ∨
      (n ≠ 0 ∧ n < 2 ^ 53 ∧ n.log2 < 53 ∧ nearest .double n 1 / 2 ^ 52 = n.log2 + 1023) ∨
      (n = 2 ^ 53 ∧ nearest .double n 1 = 1076 * 2 ^ 52) := by
  have htop : nearest .double (2 ^ 53) 1 = 1076 * 2 ^ 52 := by decide +kernel
  by_cases h0 : n = 0
  · subst h0
    exact .inl ⟨rfl, rfl⟩
  · by_cases h1 : n = 2 ^ 53
    · exact .inr (.inr ⟨h1, h1 ▸ htop⟩)
    · have hlt : n < 2 ^ 53 := by omega
      have := significand_bounds h0 hlt
      have := nearest_double h0 hlt
      exact .inr (.inl ⟨h0, hlt, (Nat.log2_lt h0).mpr hlt, by omega⟩)

theorem nearest_double_injective {m n : Nat} (hm : m ≤ 2 ^ 53) (hn : n ≤ 2 ^ 53)
    (h : nearest .double m 1 = nearest .double n 1) : m = n := by
  rcases nearest_double_cases hm with ⟨rfl, hm⟩ | ⟨hm0, hm1, hmL, hm⟩ | ⟨hm1, hm⟩ <;>
    rcases nearest_double_cases hn with ⟨rfl, hn⟩ | ⟨hn0, hn1, hnL, hn⟩ | ⟨hn1, hn⟩
  case inr.inl.inr.inl =>
    have hL : m.log2 = n.log2 := by omega
    have hpos : 0 < 2 ^ (52 - n.log2) := Nat.pow_pos (by decide)
    rw [nearest_double hm0 hm1, nearest_double hn0 hn1, hL] at h
    exact Nat.eq_of_mul_eq_mul_right hpos (by omega)
  all_goals omega

theorem compare?_ofInt_eq_iff {a b : Int} (ha : a.natAbs ≤ 2 ^ 53) (hb : b.natAbs ≤ 2 ^ 53) :
    (ofInt a : Double).compare? (ofInt b) = some .eq ↔ a = b := by
  rw [compare?_ofInt, Option.some.injEq, Std.compare_eq_iff_eq]
  constructor
  · intro h
    have hinj := nearest_double_injective ha hb
    have ha0 := nearest_double_cases ha
    have hb0 := nearest_double_cases hb
    split at h <;> split at h <;> omega
  · rintro rfl
    rfl
end Binary

end FeatureLayer
