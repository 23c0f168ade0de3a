import FeatureLayer.Proofs.Calendar
import FeatureLayer.Proofs.Predicate.Comparing
import FeatureLayer.Proofs.Predicate.Logic
/-!
Comparisons with a date. Predicates see dates as texts of four, two and two digits, and the order of
such texts is that of the days.
-/

namespace FeatureLayer

def fixedDigits : (width n : Nat) → List Char
  | 0, _ => []
  | width + 1, n => fixedDigits width (n / 10) ++ [(n % 10).digitChar]

theorem length_fixedDigits (width n : Nat) : (fixedDigits width n).length = width := by
  induction width generalizing n with
  | zero => rfl
  | succ width ih => rw [fixedDigits, List.length_append, ih, List.length_singleton]

theorem isDigit_of_mem_fixedDigits {width n : Nat} {c : Char} (h : c ∈ fixedDigits width n) :
    c.isDigit = true := by
  have hdigit : ∀ i < 10, (Nat.digitChar i).isDigit = true := by decide
  induction width generalizing n with
  | zero => cases h
  | succ width ih =>
    rcases List.mem_append.mp h with h | h
    · exact ih h
    · rw [List.mem_singleton.mp h]
      exact hdigit _ (Nat.mod_lt _ (by decide))

theorem padded_toDigits {width n : Nat} (h : n < 10 ^ (width + 1)) :
    Binary.padded (width + 1) [] (Nat.toDigits 10 n) = fixedDigits (width + 1) n := by
  induction width generalizing n with
  | zero =>
    have hn : n < 10 := h
    rw [Nat.toDigits_of_lt_base hn, fixedDigits, Nat.mod_eq_of_lt hn]
    rfl
  | succ width ih =>
    rw [fixedDigits, ← ih (by omega), Nat.toDigits_eq_if (by decide)]
    split
    next hn =>
      rw [Nat.div_eq_of_lt hn, Nat.mod_eq_of_lt hn, Nat.toDigits_zero]
      simp [Binary.padded, List.replicate_succ']
    next => simp [Binary.padded]

theorem toList_zeroPadded {width n : Nat} (h : n < 10 ^ (width + 1)) :
    (zeroPadded (width + 1) n).toList = fixedDigits (width + 1) n := by
  rw [zeroPadded, if_neg (Int.not_lt.mpr (Int.natCast_nonneg n)), String.toList_ofList,
    Int.natAbs_natCast, padded_toDigits h]

theorem compareTexts_self (as : List Char) : compareTexts as as = .eq := by
  induction as with
  | nil => rfl
  | cons a as ih => rw [compareTexts, if_neg (Nat.lt_irrefl _), if_neg (Nat.lt_irrefl _), ih]

theorem compareTexts_append {as bs : List Char} (h : as.length = bs.length) (cs ds : List Char) :
    compareTexts (as ++ cs) (bs ++ ds) = (compareTexts as bs).then (compareTexts cs ds) := by
  induction as generalizing bs with
  | nil =>
    obtain rfl := List.length_eq_zero_iff.mp h.symm
    rfl
  | cons a as ih =>
    obtain ⟨b, bs, rfl⟩ := List.exists_cons_of_length_eq_add_one h.symm
    rw [List.cons_append, List.cons_append, compareTexts, compareTexts, ih (Nat.succ.inj h)]
    split
    · rfl
    · split <;> rfl

theorem compare_div_then_mod (m n : Nat) :
    (compare (m / 10) (n / 10)).then (compare (m % 10) (n % 10)) = compare m n := by
  rcases Nat.lt_trichotomy m n with h | rfl | h
  · rw [Nat.compare_eq_lt.mpr h, Ordering.then_eq_lt, Nat.compare_eq_lt, Nat.compare_eq_eq,
      Nat.compare_eq_lt]
    omega
  · rw [Std.compare_self, Std.compare_self, Std.compare_self]
    rfl
  · rw [Nat.compare_eq_gt.mpr h, Ordering.then_eq_gt, Nat.compare_eq_gt, Nat.compare_eq_eq,
      Nat.compare_eq_gt]
    omega

theorem compareTexts_fixedDigits {width m n : Nat} (hm : m < 10 ^ width) (hn : n < 10 ^ width) :
    compareTexts (fixedDigits width m) (fixedDigits width n) = compare m n := by
  induction width generalizing m n with
  | zero =>
    obtain rfl := Nat.lt_one_iff.mp hm
    obtain rfl := Nat.lt_one_iff.mp hn
    rfl
  | succ width ih =>
    have hdigit : ∀ i < 10, ∀ j < 10,
        compareTexts [Nat.digitChar i] [Nat.digitChar j] = compare i j := by decide
    have hlength := (length_fixedDigits width (m / 10)).trans (length_fixedDigits width (n / 10)).symm
    rw [fixedDigits, fixedDigits, compareTexts_append hlength, ih (by omega) (by omega),
      hdigit _ (Nat.mod_lt _ (by decide)) _ (Nat.mod_lt _ (by decide))]
    exact compare_div_then_mod m n

namespace Date

def isoText (d : Date) : String :=
  .ofList (fixedDigits 4 d.year.toNat ++ '-' :: (fixedDigits 2 d.month ++ '-' :: fixedDigits 2 d.day))

/-- The date is in the calendar, in a year that has no more than four digits. -/
structure FourDigit (d : Date) : Prop where
  valid : d.isValid = true
  year_nonneg : 0 ≤ d.year
  year_le : d.year ≤ 9999

variable {d e : Date}

theorem FourDigit.bounds (h : d.FourDigit) :
    d.year.toNat < 10 ^ 4 ∧ d.month < 10 ^ 2 ∧ d.day < 10 ^ 2 := by
  have hvalid := h.valid
  simp only [isValid, Bool.and_eq_true, decide_eq_true_eq] at hvalid
  have hlength : ∀ leap : Bool, ∀ m ≤ 12, monthLength leap m ≤ 31 := by decide
  have := hlength (isLeap d.year) d.month hvalid.1.1.2
  have := h.year_le
  omega

theorem quote_notMem_isoText (d : Date) : '\'' ∉ d.isoText.toList := by
  have hdigits : ∀ width n, '\'' ∉ fixedDigits width n := fun width n h =>
    absurd (isDigit_of_mem_fixedDigits h) (by decide)
  simp [isoText, hdigits]

theorem compareTexts_isoText (hd : d.FourDigit) (he : e.FourDigit) :
    compareTexts d.isoText.toList e.isoText.toList =
      (compare d.year.toNat e.year.toNat).then
        ((compare d.month e.month).then (compare d.day e.day)) := by
  obtain ⟨hy, hm, hday⟩ := hd.bounds
  obtain ⟨hy', hm', hday'⟩ := he.bounds
  have hlength : ∀ width m n, (fixedDigits width m).length = (fixedDigits width n).length :=
    fun width m n => (length_fixedDigits width m).trans (length_fixedDigits width n).symm
  have hdash : ∀ as bs, compareTexts ('-' :: as) ('-' :: bs) = compareTexts as bs := fun as bs => by
    rw [compareTexts, if_neg (Nat.lt_irrefl _), if_neg (Nat.lt_irrefl _)]
  rw [isoText, isoText, String.toList_ofList, String.toList_ofList, compareTexts_append (hlength ..),
    hdash, compareTexts_append (hlength ..), hdash, compareTexts_fixedDigits hy hy',
    compareTexts_fixedDigits hm hm', compareTexts_fixedDigits hday hday']

theorem compareTexts_isoText_of_before (hd : d.FourDigit) (he : e.FourDigit) (h : d.Before e) :
    compareTexts d.isoText.toList e.isoText.toList = .lt := by
  rw [compareTexts_isoText hd he, Ordering.then_eq_lt, Ordering.then_eq_lt, Nat.compare_eq_lt,
    Nat.compare_eq_eq, Nat.compare_eq_lt, Nat.compare_eq_eq, Nat.compare_eq_lt]
  have := hd.year_nonneg
  have := he.year_nonneg
  unfold Before at h
  omega

/-- Dates compare as texts as their days compare. -/
theorem compareTexts_isoText_eq (hd : d.FourDigit) (he : e.FourDigit) :
    compareTexts d.isoText.toList e.isoText.toList = compare d.dayNumber e.dayNumber := by
  rcases d.before_trichotomy e with h | rfl | h
  · rw [compareTexts_isoText_of_before hd he h,
      Int.compare_eq_lt.mpr (dayNumber_lt_of_before hd.valid he.valid h)]
  · rw [compareTexts_self, Std.compare_self]
  · rw [compareTexts_swap, compareTexts_isoText_of_before he hd h,
      Int.compare_eq_gt.mpr (dayNumber_lt_of_before he.valid hd.valid h)]
    rfl

end Date

theorem Stamp.isoDate_eq {t : Stamp} {d : Date} (ht : t.date? = some d) (hd : d.FourDigit) :
    t.isoDate = d.isoText := by
  obtain ⟨hy, hm, hday⟩ := hd.bounds
  have hyear : ((d.year.toNat : Nat) : Int) = d.year := Int.toNat_of_nonneg hd.year_nonneg
  obtain ⟨-, h⟩ := Option.ite_none_right_eq_some.mp ht
  obtain rfl := Option.some.inj h
  apply String.toList_inj.mp
  simp only at hyear hy hm hday
  simp only [isoDate, Date.isoText, String.toList_append, String.toList_ofList]
  rw [← hyear, toList_zeroPadded hy, toList_zeroPadded hm, toList_zeroPadded hday,
    Int.toNat_natCast]
  simp

def dateComparisonText (written sign : String) (d : Date) : String :=
  written ++ " " ++ sign ++ " " ++ ("'" ++ d.isoText ++ "'")

namespace Predicate

variable {v : Vocabulary} {name written sign : String} {o : Operand} {c : Comparison}

theorem parse_dateComparisonText (h : Token.Writes name written) (hs : sign ∈ c.spellings)
    (ho : IsOperand v (.name name) o) (hnot : Text.sameWord name "NOT" = false) (d : Date) :
    parse v (dateComparisonText written sign d) = .ok (.compare o c (.literal (.text d.isoText))) :=
  parse_comparison h hs (Token.spelled_text d.quote_notMem_isoText) (.text _) ho hnot

/-- What is seen as a date is compared by its day. -/
theorem holds_compare_date_iff {fid : Int} {data : List Datum} {d e : Date}
    (h : scalarOf fid data o = .text d.isoText) (hd : d.FourDigit) (he : e.FourDigit)
    (c : Comparison) :
    (compare o c (.literal (.text e.isoText))).holds fid data = true ↔
      c.Relates d.dayNumber e.dayNumber := by
  rw [holds, decide_eq_true_eq, eval, h]
  simp only [scalarOf, Scalar.compare?, Option.map_some, Option.some.injEq,
    Date.compareTexts_isoText_eq hd he]
  exact Comparison.accepts_compare_iff c d.dayNumber e.dayNumber

end Predicate

end FeatureLayer
