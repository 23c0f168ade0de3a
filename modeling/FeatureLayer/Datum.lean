import FeatureLayer.Number.Decimal

namespace FeatureLayer

/-- A date, a time or both, broken down. Zone `0` is unknown, `1` is local time, `100` is UTC and
`100 + n` lies `n` quarter hours east of it. -/
structure Stamp where
  year : Int
  month : Nat
  day : Nat
  hour : Nat
  minute : Nat
  second : Single
  zone : Int
  deriving DecidableEq

namespace Stamp

def zero : Stamp := ⟨0, 0, 0, 0, 0, Binary.zero, 0⟩

/-- Equality of the numbers in it, so that a stamp with no number for its seconds equals nothing. -/
def same (a b : Stamp) : Bool :=
  a.year = b.year && a.month = b.month && a.day = b.day && a.hour = b.hour &&
    a.minute = b.minute && a.second.same b.second && a.zone = b.zone

end Stamp

inductive Datum where
  /-- The value was never given, or is left out of the read. -/
  | unset
  | null
  | integer (v : Int)
  | integer64 (v : Int)
  | real (v : Double)
  | text (v : String)
  | binary (v : List UInt8)
  | date (v : Stamp)
  | dateTime (v : Stamp)
  | time (v : Stamp)
  | integers (v : List Int)
  | integers64 (v : List Int)
  | reals (v : List Double)
  | texts (v : List String)
  deriving DecidableEq

namespace Datum

instance : Inhabited Datum := ⟨unset⟩

def isAbsent : Datum → Bool
  | unset | null => true
  | _ => false

def sameReals : List Double → List Double → Bool
  | [], [] => true
  | x :: xs, y :: ys => x.same y && sameReals xs ys
  | _, _ => false

/-- Equality of values: zeros of either sign are equal, and what is not a number equals nothing. -/
def same : Datum → Datum → Bool
  | real a, real b => a.same b
  | reals a, reals b => sameReals a b
  | date a, date b => a.same b
  | dateTime a, dateTime b => a.same b
  | time a, time b => a.same b
  | a, b => a = b

end Datum

end FeatureLayer
