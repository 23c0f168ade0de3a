import FeatureLayer.Value.Reading
import FeatureLayer.Value.Writing

namespace FeatureLayer

namespace Date

theorem daysBeforeMonth_le_succ (leap : Bool) :
    ∀ m, daysBeforeMonth leap m ≤ daysBeforeMonth leap (m + 1)
  | 0 | 1 | 2 | 3 | 4 | 5 | 6 | 7 | 8 | 9 | 10 | 11 => by cases leap <;> decide
  | _ + 12 => Nat.le_refl _

theorem of_add {p : Nat → Bool} (hp : ∀ m, p (m + 1) = true → p m = true) {m : Nat} (j : Nat)
    (h : p (m + j) = true) : p m = true := by
  induction j with
  | zero => exact h
  | succ j ih => exact ih (hp _ h)

theorem last_of_length_filter {p : Nat → Bool} (hp : ∀ m, p (m + 1) = true → p m = true) (n : Nat) :
    ((List.range n).filter p).length = 0 ∨
      p (((List.range n).filter p).length - 1) = true := by
  induction n with
  | zero => exact .inl rfl
  | succ n ih =>
    rw [List.range_succ, List.filter_append]
    by_cases hn : p n = true
    · have hall : (List.range n).filter p = List.range n := by
        rw [List.filter_eq_self]
        intro m hm
        obtain ⟨j, rfl⟩ := Nat.exists_eq_add_of_lt (List.mem_range.mp hm)
        exact of_add hp (j + 1) hn
      right
      simp [hall, hn]
    · simpa [hn] using ih

theorem daysBeforeMonth_monthOf_le (leap : Bool) (day : Nat) :
    daysBeforeMonth leap (monthOf leap day) ≤ day := by
  have hlast := last_of_length_filter (p := fun m => daysBeforeMonth leap (m + 1) ≤ day) (fun m h => by
    have := daysBeforeMonth_le_succ leap (m + 1)
    simp only [decide_eq_true_eq] at h ⊢
    omega) 12
  unfold monthOf
  generalize ((List.range 12).filter fun m => daysBeforeMonth leap (m + 1) ≤ day).length = k at hlast ⊢
  cases k with
  | zero => exact Nat.zero_le day
  | succ k => simpa using hlast

theorem daysBeforeYear_yearOf_le (days : Int) : daysBeforeYear (yearOf days) ≤ days := by
  unfold yearOf
  simp only
  split
  next h =>
    -- a year has 365 days at least, and the mean length misses by fewer
    unfold daysBeforeYear at *
    omega
  next h =>
    split
    · assumption
    · omega

theorem dayNumber_of_ofDayNumber? {n : Int} {d : Date} (h : ofDayNumber? n = some d) :
    d.dayNumber = n ∧ d.isValid = true := by
  have hyear := daysBeforeYear_yearOf_le (n + epochOffset)
  unfold ofDayNumber? ofParts? at h
  simp only at h
  generalize yearOf (n + epochOffset) = year at h hyear
  have hmonth := daysBeforeMonth_monthOf_le (isLeap year)
    (n + epochOffset - daysBeforeYear year).toNat
  generalize monthOf (isLeap year) (n + epochOffset - daysBeforeYear year).toNat = month at h hmonth
  split at h
  next hvalid =>
    cases h
    refine ⟨?_, hvalid⟩
    simp only [dayNumber]
    omega
  next => cases h

theorem daysBeforeMonth_mono (leap : Bool) {m m' : Nat} (h : m ≤ m') :
    daysBeforeMonth leap m ≤ daysBeforeMonth leap m' := by
  induction h with
  | refl => exact Nat.le_refl _
  | @step m' _ ih => exact Nat.le_trans ih (daysBeforeMonth_le_succ leap m')

theorem monthOf_eq {leap : Bool} {m day : Nat} (hm : m ≤ 12) (hle : daysBeforeMonth leap m ≤ day)
    (hlt : m < 12 → day < daysBeforeMonth leap (m + 1)) : monthOf leap day = m := by
  have hcount : ∀ m ≤ 12, ((List.range 12).filter (· < m)).length = m := by decide
  have hmonths : ∀ j ∈ List.range 12, decide (daysBeforeMonth leap (j + 1) ≤ day) = decide (j < m) := by
    intro j hj
    rw [List.mem_range] at hj
    rw [decide_eq_decide]
    refine ⟨fun h => Nat.lt_of_not_le fun hjm => ?_, fun h => ?_⟩
    · have := daysBeforeMonth_mono leap (Nat.add_le_add_right hjm 1)
      have := hlt (by omega)
      omega
    · exact Nat.le_trans (daysBeforeMonth_mono leap h) hle
  rw [monthOf, List.filter_congr hmonths, hcount m hm]

def yearLength (leap : Bool) : Nat := if leap then 366 else 365

theorem day_lt_of_le_monthLength {leap : Bool} {m d : Nat} (hm : 1 ≤ m) (hm' : m ≤ 12)
    (hd : d < monthLength leap m) :
    (m < 12 → daysBeforeMonth leap m + d < daysBeforeMonth leap (m + 1)) ∧
      daysBeforeMonth leap m + d < yearLength leap := by
  have hlength : ∀ leap : Bool, ∀ m ≤ 12, 1 ≤ m →
      (m < 12 → daysBeforeMonth leap m + monthLength leap m ≤ daysBeforeMonth leap (m + 1)) ∧
        daysBeforeMonth leap m + monthLength leap m ≤ yearLength leap := by decide
  obtain ⟨hnext, hyear⟩ := hlength leap m hm' hm
  exact ⟨fun h => by have := hnext h; omega, by omega⟩

theorem daysBeforeYear_mono {y y' : Int} (h : y ≤ y') : daysBeforeYear y ≤ daysBeforeYear y' := by
  unfold daysBeforeYear
  omega

theorem daysBeforeYear_succ (y : Int) :
    daysBeforeYear (y + 1) = daysBeforeYear y + yearLength (isLeap y) := by
  unfold daysBeforeYear yearLength isLeap
  split
  next h =>
    simp only [Bool.and_eq_true, Bool.or_eq_true, decide_eq_true_eq] at h
    omega
  next h =>
    simp only [Bool.and_eq_true, Bool.or_eq_true, decide_eq_true_eq] at h
    omega

theorem lt_daysBeforeYear_yearOf_succ (days : Int) : days < daysBeforeYear (yearOf days + 1) := by
  unfold yearOf
  simp only
  split
  next h => rwa [Int.sub_add_cancel]
  next h =>
    split
    · -- the mean length of a year misses by less than a year
      unfold daysBeforeYear
      omega
    · omega

theorem yearOf_eq {y days : Int} (hle : daysBeforeYear y ≤ days) (hlt : days < daysBeforeYear (y + 1)) :
    yearOf days = y := by
  have hle' := daysBeforeYear_yearOf_le days
  have hlt' := lt_daysBeforeYear_yearOf_succ days
  rcases Int.lt_trichotomy (yearOf days) y with h | h | h
  · have := daysBeforeYear_mono h
    omega
  · exact h
  · have := daysBeforeYear_mono h
    omega

/-- The day of a date has that date. -/
theorem ofDayNumber?_dayNumber {d : Date} (h : d.isValid = true) : ofDayNumber? d.dayNumber = some d := by
  have hvalid := h
  simp only [isValid, Bool.and_eq_true, decide_eq_true_eq] at h
  obtain ⟨⟨⟨⟨-, hm⟩, hm'⟩, hd⟩, hd'⟩ := h
  have hday : d.day - 1 < monthLength (isLeap d.year) d.month := by omega
  obtain ⟨hnext, hyear⟩ := day_lt_of_le_monthLength hm hm' hday
  have hsucc := daysBeforeYear_succ d.year
  have hdays : d.dayNumber + epochOffset =
      daysBeforeYear d.year + (daysBeforeMonth (isLeap d.year) d.month + (d.day - 1) : Nat) := by
    unfold dayNumber
    omega
  have hyearOf : yearOf (d.dayNumber + epochOffset) = d.year := yearOf_eq (by omega) (by omega)
  have hrest : (d.dayNumber + epochOffset - daysBeforeYear d.year).toNat =
      daysBeforeMonth (isLeap d.year) d.month + (d.day - 1) := by omega
  have hmonth : monthOf (isLeap d.year)
      (daysBeforeMonth (isLeap d.year) d.month + (d.day - 1)) = d.month :=
    monthOf_eq hm' (Nat.le_add_right _ _) hnext
  unfold ofDayNumber?
  simp only [hyearOf, hrest, hmonth]
  have hback : daysBeforeMonth (isLeap d.year) d.month + (d.day - 1) -
      daysBeforeMonth (isLeap d.year) d.month + 1 = d.day := by omega
  rw [hback]
  exact if_pos hvalid

theorem ofDayNumber?_eq_some_iff {n : Int} {d : Date} :
    ofDayNumber? n = some d ↔ d.isValid = true ∧ d.dayNumber = n := by
  constructor
  · exact fun h => (dayNumber_of_ofDayNumber? h).symm
  · rintro ⟨hvalid, rfl⟩
    exact ofDayNumber?_dayNumber hvalid

def Before (d e : Date) : Prop :=
  d.year < e.year ∨ d.year = e.year ∧ (d.month < e.month ∨ d.month = e.month ∧ d.day < e.day)

theorem before_trichotomy (d e : Date) : d.Before e ∨ d = e ∨ e.Before d := by
  have heq : d = e ↔ d.year = e.year ∧ d.month = e.month ∧ d.day = e.day := by
    rw [Date.mk.injEq]
  unfold Before
  rw [heq]
  omega

theorem dayNumber_bounds {d : Date} (h : d.isValid = true) :
    daysBeforeYear d.year + daysBeforeMonth (isLeap d.year) d.month ≤ d.dayNumber + epochOffset ∧
      (d.month < 12 → d.dayNumber + epochOffset <
        daysBeforeYear d.year + daysBeforeMonth (isLeap d.year) (d.month + 1)) ∧
      d.dayNumber + epochOffset < daysBeforeYear (d.year + 1) := by
  simp only [isValid, Bool.and_eq_true, decide_eq_true_eq] at h
  obtain ⟨⟨⟨⟨-, hm⟩, hm'⟩, hd⟩, hd'⟩ := h
  have hday : d.day - 1 < monthLength (isLeap d.year) d.month := by omega
  obtain ⟨hnext, hyear⟩ := day_lt_of_le_monthLength hm hm' hday
  rw [daysBeforeYear_succ]
  unfold dayNumber
  refine ⟨by omega, fun h => ?_, by omega⟩
  have := hnext h
  omega

theorem dayNumber_lt_of_before {d e : Date} (hd : d.isValid = true) (he : e.isValid = true)
    (h : d.Before e) : d.dayNumber < e.dayNumber := by
  obtain ⟨-, hmonth, hyear⟩ := dayNumber_bounds hd
  obtain ⟨hfrom, -, -⟩ := dayNumber_bounds he
  rcases h with hy | ⟨hy, hm | ⟨hm, hday⟩⟩
  · have hle : d.year + 1 ≤ e.year := hy
    have := daysBeforeYear_mono hle
    omega
  · have hm' : e.month ≤ 12 := by
      simp only [isValid, Bool.and_eq_true, decide_eq_true_eq] at he
      omega
    have := hmonth (by omega)
    have := daysBeforeMonth_mono (isLeap d.year) (m := d.month + 1) hm
    rw [← hy] at hfrom
    omega
  · unfold dayNumber
    rw [hy, hm]
    omega

end Date

theorem Value.ofDatum_date {t : Stamp} {d : Date} (ht : t.date? = some d) (subkind : Subkind) :
    ofDatum .date subkind (.date t) = .date d.dayNumber := by
  simp [ofDatum, Datum.isAbsent, Stamp.dayNumber?, ht]

theorem Value.toDate?_date {n : Int} {d : Date} (h : Date.ofDayNumber? n = some d) :
    (date n).toDate? = some d := by
  simp [toDate?, toMoment?, h]

theorem Value.ofDatum_ofDate {n : Int} {d : Date} (h : Date.ofDayNumber? n = some d)
    (subkind : Subkind) : ofDatum .date subkind (.date (.ofDate d)) = date n := by
  obtain ⟨rfl, hvalid⟩ := Date.dayNumber_of_ofDayNumber? h
  have hdate : (Stamp.ofDate d).date? = some d := if_pos hvalid
  exact ofDatum_date hdate subkind

theorem Moment.date_of_ofDouble? {seconds : Double} {m : Moment} (h : ofDouble? seconds = some m) :
    ∃ n, Date.ofDayNumber? n = some m.date := by
  unfold ofDouble? at h
  simp only at h
  split at h
  · split at h
    · obtain ⟨d, hd, rfl⟩ := Option.map_eq_some_iff.mp h
      exact ⟨_, hd⟩
    · cases h
  · cases h

theorem Value.date_of_toDate? {v : Value} {d : Date} (h : v.toDate? = some d) :
    ∃ n, Date.ofDayNumber? n = some d := by
  obtain ⟨m, hm, rfl⟩ := Option.map_eq_some_iff.mp h
  cases v with
  | date n =>
    obtain ⟨d, hd, rfl⟩ := Option.map_eq_some_iff.mp hm
    exact ⟨n, hd⟩
  | dateTime s => exact Moment.date_of_ofDouble? hm
  | _ => cases hm

end FeatureLayer
