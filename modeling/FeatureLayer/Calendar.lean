import FeatureLayer.Number.Decimal
import FeatureLayer.Text.Character

namespace FeatureLayer

def isLeap (year : Int) : Bool := year % 4 = 0 && (year % 100 ≠ 0 || year % 400 = 0)

def monthLength (leap : Bool) : Nat → Nat
  | 2 => if leap then 29 else 28
  | 4 | 6 | 9 | 11 => 30
  | _ => 31

def daysBeforeMonth (leap : Bool) (month : Nat) : Nat :=
  let l := if leap then 1 else 0
  match month with
  | 0 | 1 => 0
  | 2 => 31
  | 3 => 59 + l
  | 4 => 90 + l
  | 5 => 120 + l
  | 6 => 151 + l
  | 7 => 181 + l
  | 8 => 212 + l
  | 9 => 243 + l
  | 10 => 273 + l
  | 11 => 304 + l
  | _ => 334 + l

def daysBeforeYear (year : Int) : Int :=
  365 * (year - 1) + (year - 1) / 4 - (year - 1) / 100 + (year - 1) / 400

def epochOffset : Int := 719162

structure Date where
  year : Int
  month : Nat
  day : Nat
  deriving DecidableEq, Repr

namespace Date

def isValid (d : Date) : Bool :=
  -262143 ≤ d.year && d.year ≤ 262142 && 1 ≤ d.month && d.month ≤ 12 &&
    1 ≤ d.day && d.day ≤ monthLength (isLeap d.year) d.month

def ofParts? (year : Int) (month day : Nat) : Option Date :=
  let d : Date := ⟨year, month, day⟩
  if d.isValid then some d else none

def dayNumber (d : Date) : Int :=
  daysBeforeYear d.year + daysBeforeMonth (isLeap d.year) d.month + (d.day - 1) - epochOffset

/-- The year that holds the day, counted from the first day of year 1: the mean length of a year
misses it by one at most. -/
def yearOf (days : Int) : Int :=
  let y := days * 400 / 146097 + 1
  if days < daysBeforeYear y then y - 1
  else if daysBeforeYear (y + 1) ≤ days then y + 1 else y

def monthOf (leap : Bool) (day : Nat) : Nat :=
  ((List.range 12).filter fun m => daysBeforeMonth leap (m + 1) ≤ day).length

def ofDayNumber? (n : Int) : Option Date :=
  let days := n + epochOffset
  let year := yearOf days
  let leap := isLeap year
  let rest := (days - daysBeforeYear year).toNat
  let month := monthOf leap rest
  ofParts? year month (rest - daysBeforeMonth leap month + 1)

end Date

/-- A time of day to the nanosecond; a leap second is the last second with a full second more. -/
structure Clock where
  hour : Nat
  minute : Nat
  second : Nat
  nanos : Nat
  deriving DecidableEq, Repr

namespace Clock

def seconds (t : Clock) : Nat := 3600 * t.hour + 60 * t.minute + t.second

def ofParts? (hour minute second : Nat) : Option Clock :=
  if hour < 24 ∧ minute < 60 ∧ second < 60 then some ⟨hour, minute, second, 0⟩ else none

/-- A time to the microsecond; in a last second, a million and more are a leap second. -/
def ofMicros? (hour minute second micros : Nat) : Option Clock :=
  if hour < 24 ∧ minute < 60 ∧ second < 60 ∧ micros < (if second = 59 then 2000000 else 1000000) then
    some ⟨hour, minute, second, 1000 * micros⟩
  else none

def readTwo (limit : Nat) (cs : List Char) : Option (Nat × List Char) :=
  let cs := cs.dropWhile Text.isWhiteSpace
  let ds := (cs.take 2).takeWhile Char.isDigit
  let n := Nat.ofDigitChars 10 ds 0
  if ds.isEmpty || limit < n then none else some (n, cs.drop ds.length)

/-- A decimal fraction to the ninth place, if there is one; later digits are dropped. -/
def readNanos : List Char → Option (Nat × List Char)
  | '.' :: cs =>
    let ds := (cs.takeWhile Char.isDigit).take 9
    if ds.isEmpty then none
    else some (Nat.ofDigitChars 10 ds 0 * Nat.pow 10 (9 - ds.length), cs.dropWhile Char.isDigit)
  | cs => some (0, cs)

def colon : List Char → Option (List Char)
  | ':' :: cs => some cs
  | _ => none

def parse? (cs : List Char) : Option Clock := do
  let (hour, cs) ← readTwo 23 cs
  let (minute, cs) ← readTwo 59 (← colon cs)
  match cs with
  | [] => some ⟨hour, minute, 0, 0⟩
  | cs =>
    let (second, cs) ← readTwo 60 (← colon cs)
    let (nanos, cs) ← readNanos cs
    if cs.isEmpty then
      some (if second = 60 then ⟨hour, minute, 59, nanos + 1000000000⟩ else ⟨hour, minute, second, nanos⟩)
    else none

end Clock

structure Moment where
  date : Date
  time : Clock
  deriving DecidableEq, Repr

namespace Moment

def epochSeconds (m : Moment) : Int := 86400 * m.date.dayNumber + m.time.seconds

def ofMillis? (n : Int) : Option Moment :=
  let ms := (n % 86400000).toNat
  (Date.ofDayNumber? (n / 86400000)).map fun d =>
    ⟨d, ⟨ms / 3600000, ms / 60000 % 60, ms / 1000 % 60, ms % 1000 * 1000000⟩⟩

def millis (m : Moment) : Nat := m.time.nanos / 1000000

/-- The moment that a local date and time denote, so many seconds east of UTC and less than a day. -/
def ofLocal? (date : Date) (time : Clock) (east : Int) : Option Moment :=
  if east.natAbs < 86400 then
    let local_ : Moment := ⟨date, time⟩
    (ofMillis? (1000 * (local_.epochSeconds - east))).map fun m =>
      ⟨m.date, { m.time with nanos := time.nanos }⟩
  else none

def toDouble (m : Moment) : Double :=
  Binary.ofInt m.epochSeconds + Binary.ofInt m.millis / Binary.ofInt 1000

/-- The moment, to the millisecond, that a count of seconds since the start of 1970 denotes. -/
def ofDouble? (seconds : Double) : Option Moment :=
  if seconds.isFinite then
    let ms := (seconds * Binary.ofInt 1000).round
    if ms.isFinite then ofMillis? (ms.clamp (-(Nat.pow 2 63 : Int)) (Nat.pow 2 63)) else none
  else none

end Moment

end FeatureLayer
