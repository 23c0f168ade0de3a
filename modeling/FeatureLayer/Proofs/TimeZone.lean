import FeatureLayer.Proofs.Calendar
import FeatureLayer.Proofs.Number.Integral
/-!
Stamps in whole seconds read as the instant that their zone gives them, as long as its distance from UTC
in seconds has 32 bits. Zones farther off stop the program.
-/

namespace FeatureLayer

theorem map_eq_error_iff {α β : Type} {g : α → β} {x : Except Panic α} :
    x.map g = .error .overflow ↔ x = .error .overflow := by
  cases x <;> simp [Except.map]

theorem Date.dayNumber_natAbs_lt {d : Date} (h : d.isValid = true) : d.dayNumber.natAbs < 10 ^ 8 := by
  obtain ⟨hfrom, -, hto⟩ := dayNumber_bounds h
  simp only [isValid, Bool.and_eq_true, decide_eq_true_eq] at h
  have hoffset : epochOffset = 719162 := rfl
  unfold daysBeforeYear at hfrom hto
  omega

namespace Stamp

variable {t t' : Stamp} {days days' : Int} {second second' : Nat}

theorem dayNumber_natAbs_lt (h : t.dayNumber? = some days) : days.natAbs < 10 ^ 8 := by
  obtain ⟨d, hd, rfl⟩ := Option.map_eq_some_iff.mp h
  rw [date?, Date.ofParts?] at hd
  simp only [Option.ite_none_right_eq_some] at hd
  obtain ⟨hvalid, heq⟩ := hd
  cases heq
  exact Date.dayNumber_natAbs_lt hvalid

/-- Seconds that the zone lies ahead of UTC: a quarter of an hour for each step from the zone of UTC. -/
def secondsEast (t : Stamp) : Int := if 1 < t.zone then 900 * (t.zone - 100) else 0

/-- The zone farthest east that is computed without overflow. -/
def lastZone : Int := 2386192

theorem int32_eq_ok {n : Int} (h : -2 ^ 31 ≤ n ∧ n < 2 ^ 31) : int32 n = .ok n := if_pos h

theorem int32_eq_error {n : Int} (h : 2 ^ 31 ≤ n) : int32 n = .error .overflow :=
  if_neg fun hn => absurd hn.2 (Int.not_lt.mpr h)

theorem zoneSeconds_eq_ok (h : t.zone ≤ lastZone) : t.zoneSeconds = .ok t.secondsEast := by
  have hlast : lastZone = 2386192 := rfl
  unfold zoneSeconds secondsEast
  split
  next hz =>
    rw [if_pos hz.1, int32_eq_ok (by omega)]
    show (do let minutes ← int32 ((t.zone - 100) * 15); int32 (minutes * 60)) = _
    rw [int32_eq_ok (by omega)]
    show int32 ((t.zone - 100) * 15 * 60) = _
    rw [int32_eq_ok (by omega)]
    congr 1
    omega
  next hz =>
    congr 1
    split <;> omega

/-- Beyond the last zone the last product overflows, if nothing did before. -/
theorem zoneSeconds_eq_error (h : lastZone < t.zone) : t.zoneSeconds = .error .overflow := by
  have hlast : lastZone = 2386192 := rfl
  rw [zoneSeconds, if_pos (by omega)]
  by_cases hsteps : t.zone - 100 < 2 ^ 31
  · rw [int32_eq_ok (by omega)]
    show (do let minutes ← int32 ((t.zone - 100) * 15); int32 (minutes * 60)) = _
    by_cases hminutes : (t.zone - 100) * 15 < 2 ^ 31
    · rw [int32_eq_ok (by omega)]
      exact int32_eq_error (by omega)
    · rw [int32_eq_error (by omega)]
      rfl
  · rw [int32_eq_error (by omega)]
    rfl

theorem zoneSeconds_eq_error_iff : t.zoneSeconds = .error .overflow ↔ lastZone < t.zone := by
  refine ⟨fun h => Int.not_le.mp fun hz => ?_, zoneSeconds_eq_error⟩
  rw [zoneSeconds_eq_ok hz] at h
  cases h

theorem epochSeconds_eq_error_iff :
    t.epochSeconds = .error .overflow ↔ t.clockSeconds?.isSome = true ∧ lastZone < t.zone := by
  unfold epochSeconds
  cases t.clockSeconds? with
  | none => simp
  | some seconds => simp [map_eq_error_iff, zoneSeconds_eq_error_iff]

theorem epochSeconds_eq_ok (h : t.epochSeconds ≠ .error .overflow) :
    t.epochSeconds = .ok t.epochSeconds? := by
  rw [epochSeconds?]
  cases hread : t.epochSeconds with
  | error p =>
    cases p
    exact absurd hread h
  | ok seconds => rfl

theorem secondsEast_natAbs_lt (h : t.zone < 2 ^ 31) : t.secondsEast.natAbs < 2 ^ 41 := by
  unfold secondsEast
  split <;> omega

/-- A date that exists and a time of day to the second, in a zone of 32 bits. -/
structure Whole (t : Stamp) (days : Int) (second : Nat) : Prop where
  date : t.dayNumber? = some days
  hour : t.hour < 24
  minute : t.minute < 60
  value : t.second.value? = some (second : Rat)
  second_lt : second < 60
  zone_ge : -2 ^ 31 ≤ t.zone
  zone_lt : t.zone < 2 ^ 31

def localSeconds (t : Stamp) (days : Int) (second : Nat) : Int :=
  86400 * days + 3600 * t.hour + 60 * t.minute + second

def instant (t : Stamp) (days : Int) (second : Nat) : Int := t.localSeconds days second - t.secondsEast

theorem Whole.localSeconds_natAbs_lt (h : t.Whole days second) :
    (t.localSeconds days second).natAbs < 2 ^ 43 := by
  have := dayNumber_natAbs_lt h.date
  have := h.hour
  have := h.minute
  have := h.second_lt
  unfold localSeconds
  omega

end Stamp

namespace Binary

theorem trunc_of_value {x : Single} {n : Nat} (hn : n < 60) (hx : x.value? = some (n : Rat)) :
    x.trunc.value? = some (n : Rat) ∧ x.trunc.negative = x.negative := by
  have hpositive : ∀ n < 60, (ofParts false (nearest .single n 1) : Single).value? = some (n : Rat) := by
    decide +kernel
  have htrunc : x.trunc = ofParts x.negative (nearest .single n 1) := by
    unfold trunc
    rw [hx]
    simp
  have hsign : x.trunc.negative = x.negative := by
    rw [htrunc]
    exact negative_ofParts _ (Nat.lt_of_le_of_lt (nearest_le .single _ _) (infinity_lt .single))
  refine ⟨?_, hsign⟩
  rw [htrunc]
  cases hneg : x.negative with
  | false => exact hpositive n hn
  | true =>
    have hle : (n : Int) ≤ 0 := nonpos_of_negative hneg (by rw [hx, Int.cast_natCast])
    obtain rfl : n = 0 := by omega
    decide +kernel

end Binary

namespace Stamp

variable {t t' : Stamp} {days days' : Int} {second second' : Nat}

/-- Doubles hold all these numbers, so that nothing is lost. -/
theorem Whole.clockSeconds?_eq (h : t.Whole days second) :
    t.clockSeconds? = some (Binary.ofInt (t.localSeconds days second)) := by
  obtain ⟨d, hd, hdays⟩ := Option.map_eq_some_iff.mp h.date
  obtain ⟨hvalue, hsign⟩ := Binary.trunc_of_value h.second_lt h.value
  have hsecond : t.second.value? = some ((second : Int) : Rat) := by rw [h.value, Int.cast_natCast]
  have hvalue' : t.second.trunc.value? = some ((second : Int) : Rat) := by rw [hvalue, Int.cast_natCast]
  have hlt := h.second_lt
  have hwhole : (t.second.trunc.clamp 0 ((Nat.pow 2 32 : Int) - 1)).toNat = second := by
    have htop : ((Nat.pow 2 32 : Int) - 1) = 4294967295 := rfl
    rw [Binary.clamp_of_value hvalue', htop]
    omega
  have hclock : Clock.ofParts? t.hour t.minute second = some ⟨t.hour, t.minute, second, 0⟩ :=
    if_pos ⟨h.hour, h.minute, hlt⟩
  have hfraction : t.second - t.second.trunc = Binary.ofInt 0 := by
    have hsub := Binary.sub_of_values hsecond hvalue' fun _ => by rw [hsign, Bool.and_not_self]
    rw [hsub, Int.sub_self]
  have hnone : (((Binary.ofInt 0 : Single).convert : Double) * Binary.ofInt 1000).round /
      Binary.ofInt 1000 = Binary.ofInt 0 := by decide +kernel
  have hlocal : Moment.epochSeconds ⟨d, ⟨t.hour, t.minute, second, 0⟩⟩ =
      t.localSeconds days second := by
    rw [← hdays, Moment.epochSeconds, Clock.seconds, localSeconds]
    push_cast
    omega
  have hlocal_lt := h.localSeconds_natAbs_lt
  unfold clockSeconds?
  simp only [hd, hwhole, hclock, hfraction, hnone, hlocal, bind, Option.bind]
  rw [Binary.ofInt_add (by omega) (by decide), Int.add_zero]

theorem Whole.instant_natAbs_lt (h : t.Whole days second) :
    (t.instant days second).natAbs < 2 ^ 53 := by
  have := h.localSeconds_natAbs_lt
  have := secondsEast_natAbs_lt h.zone_lt
  unfold instant
  omega

theorem Whole.epochSeconds_eq_ok (h : t.Whole days second) (hz : t.zone ≤ lastZone) :
    t.epochSeconds = .ok (some (Binary.ofInt (t.instant days second))) := by
  have hlocal := h.localSeconds_natAbs_lt
  have heast := secondsEast_natAbs_lt h.zone_lt
  rw [epochSeconds, h.clockSeconds?_eq, zoneSeconds_eq_ok hz, instant]
  simp only [Except.map]
  split
  next hzero => rw [hzero, Int.sub_zero]
  next => rw [Binary.ofInt_sub (by omega) (by omega)]

theorem Whole.epochSeconds_eq_error_iff (h : t.Whole days second) :
    t.epochSeconds = .error .overflow ↔ lastZone < t.zone := by
  rw [Stamp.epochSeconds_eq_error_iff, h.clockSeconds?_eq]
  simp

theorem Whole.read_eq_ok (h : t.Whole days second) (hz : t.zone ≤ lastZone) (subkind : Subkind) :
    Value.read .dateTime subkind (.dateTime t) =
      .ok (.dateTime (Binary.ofInt (t.instant days second))) := by
  rw [Value.read, h.epochSeconds_eq_ok hz]
  rfl

/-- A stamp in whole seconds is read as the seconds of its date and time less those of its zone, and
nothing on the way overflows, just for the zones up to the last. Beyond it the program stops. Stamps in
zones up to it have one value just if they denote one instant. -/
theorem whole_stamps_read_as_instants (t : Stamp) (days : Int) (second : Nat)
    (h : t.Whole days second) :
    (t.epochSeconds = .ok (some (Binary.ofInt
        (86400 * days + 3600 * t.hour + 60 * t.minute + second -
          if 1 < t.zone then 900 * (t.zone - 100) else 0))) ↔ t.zone ≤ 2386192) ∧
      (t.epochSeconds = .error .overflow ↔ 2386192 < t.zone) ∧
      ∀ (t' : Stamp) (days' : Int) (second' : Nat) (subkind : Subkind), t'.Whole days' second' →
        t.zone ≤ 2386192 → t'.zone ≤ 2386192 →
        ∃ x x', Value.read .dateTime subkind (.dateTime t) = .ok (.dateTime x) ∧
          Value.read .dateTime subkind (.dateTime t') = .ok (.dateTime x') ∧
          (x = x' ↔ t.instant days second = t'.instant days' second') := by
  refine ⟨⟨fun hok => Int.not_lt.mp fun hz => ?_, h.epochSeconds_eq_ok⟩, h.epochSeconds_eq_error_iff,
    fun t' days' second' subkind h' hz hz' => ?_⟩
  · rw [h.epochSeconds_eq_error_iff.mpr hz] at hok
    cases hok
  · exact ⟨_, _, h.read_eq_ok hz subkind, h'.read_eq_ok hz' subkind,
      Binary.eq_of_ofInt_eq h.instant_natAbs_lt h'.instant_natAbs_lt, fun heq => by rw [heq]⟩

def onMarchFirst (hour minute : Nat) (zone : Int) : Stamp :=
  ⟨2024, 3, 1, hour, minute, Binary.zero, zone⟩

theorem whole_onMarchFirst (hour minute : Nat) (zone : Int) (hh : hour < 24) (hm : minute < 60)
    (hz : -2 ^ 31 ≤ zone ∧ zone < 2 ^ 31) : (onMarchFirst hour minute zone).Whole 19783 0 where
  date := by
    show (Date.ofParts? 2024 3 1).map Date.dayNumber = some 19783
    decide +kernel
  hour := hh
  minute := hm
  value := by
    show (Binary.zero : Single).value? = _
    decide +kernel
  second_lt := by decide
  zone_ge := hz.1
  zone_lt := hz.2

theorem whole_stamps_read_as_instant :
    (onMarchFirst 14 30 108).Whole 19783 0 ∧ (onMarchFirst 7 30 80).Whole 19783 0 ∧
      (onMarchFirst 14 30 108).epochSeconds = .ok (some (Binary.ofInt 1709296200)) ∧
      Value.read .dateTime .none (.dateTime (onMarchFirst 14 30 108)) =
        Value.read .dateTime .none (.dateTime (onMarchFirst 7 30 80)) := by
  have heast := whole_onMarchFirst 14 30 108 (by decide) (by decide) (by decide)
  have hwest := whole_onMarchFirst 7 30 80 (by decide) (by decide) (by decide)
  obtain ⟨hread, -, hsame⟩ := whole_stamps_read_as_instants _ _ _ heast
  obtain ⟨x, x', hx, hx', heq⟩ := hsame _ _ _ .none hwest (by decide) (by decide)
  refine ⟨heast, hwest, hread.mpr (by decide), ?_⟩
  rw [hx, hx', heq.mpr (by decide)]

/-- One zone beyond the last, the program stops. -/
theorem overflow_of_next_zone :
    let t := onMarchFirst 12 30 2386193
    t.Whole 19783 0 ∧ t.instant 19783 0 = -438187500 ∧ t.epochSeconds = .error .overflow ∧
      t.epochSeconds ≠ .ok (some (Binary.ofInt (-438187500))) := by
  have hwhole := whole_onMarchFirst 12 30 2386193 (by decide) (by decide) (by decide)
  have herror := hwhole.epochSeconds_eq_error_iff.mpr (by decide)
  refine ⟨hwhole, by decide, herror, ?_⟩
  rw [herror]
  exact fun h => nomatch h

end Stamp

end FeatureLayer
