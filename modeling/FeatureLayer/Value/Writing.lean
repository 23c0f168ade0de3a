import FeatureLayer.Datum
import FeatureLayer.Error
import FeatureLayer.Schema
import FeatureLayer.Value

namespace FeatureLayer

namespace Stamp

def ofDate (d : Date) : Stamp := { zero with year := d.year, month := d.month, day := d.day }

def ofMoment (m : Moment) : Stamp :=
  { ofDate m.date with
    hour := m.time.hour
    minute := m.time.minute
    second := Binary.ofInt m.time.second + Binary.ofInt m.millis / Binary.ofInt 1000
    zone := 100 }

def ofClock (t : Clock) : Stamp :=
  { zero with
    hour := t.hour
    minute := t.minute
    second := Binary.ofInt t.second + Binary.ofInt t.nanos / Binary.ofInt 1000000000 }

end Stamp

inductive Unstorable where
  /-- The field holds values of another kind. -/
  | kind (expected : String)
  | range (detail : String)
  deriving DecidableEq, Repr

namespace Unstorable

def error (field : String) (v : Value) : Unstorable → Error
  | kind expected => .typeMismatch field expected v.kind
  | range detail => .range "OGR_F_SetField" s!"{field}: {detail}"

end Unstorable

namespace Field

def within (lo hi : Int) (n : Int) (shown unit : String) : Except Unstorable Int :=
  if lo ≤ n ∧ n ≤ hi then .ok n else .error (.range s!"{shown} exceeds {unit}")

def integer32 (n : Int) (shown : String) : Except Unstorable Int :=
  within (-(Nat.pow 2 31 : Int)) ((Nat.pow 2 31 : Int) - 1) n shown "32 bits"

def integer64 (n : Int) (shown : String) : Except Unstorable Int :=
  within (-(Nat.pow 2 63 : Int)) ((Nat.pow 2 63 : Int) - 1) n shown "64 bits"

def wholeNumber? (v : Double) : Option Int := v.value?.bind fun q => if q.den = 1 then some q.num else none

/-- The items of a list. A list of missing items alone is no list; some missing among others cannot
be stored. -/
def items {α : Type} (expected : String) (make : List α → Datum) (v : List (Option α)) :
    Except Unstorable Datum :=
  if !v.isEmpty && v.all (·.isNone) then .ok .null
  else if v.all (·.isSome) then .ok (make (v.filterMap id))
  else .error (.kind expected)

/-- The datum that a field stores for a value. Numbers convert where nothing is lost; nulls are
stored in every field, so the caller looks whether it takes them. -/
def store (f : Field) (v : Value) : Except Unstorable Datum :=
  match f.kind, v with
  | _, .null => .ok .null
  | .integer, .integer n => .ok (.integer n)
  | .integer, .boolean b => .ok (.integer (if b then 1 else 0))
  | .integer, .integer64 n => (integer32 n (toString n)).map .integer
  | .integer, .real r =>
    match wholeNumber? r with
    | some n => (integer32 n r.text).map .integer
    | none => .error (.kind (if f.isBoolean then "boolean" else "integer"))
  | .integer, _ => .error (.kind (if f.isBoolean then "boolean" else "integer"))
  | .integer64, .integer64 n | .integer64, .integer n => .ok (.integer64 n)
  | .integer64, .boolean b => .ok (.integer64 (if b then 1 else 0))
  | .integer64, .real r =>
    match wholeNumber? r with
    | some n => (integer64 n r.text).map .integer64
    | none => .error (.kind "integer64")
  | .integer64, _ => .error (.kind "integer64")
  | .real, .real r => .ok (.real r)
  | .real, .integer n | .real, .integer64 n => .ok (.real (Binary.ofInt n))
  | .real, _ => .error (.kind "real")
  | .text, .text s => .ok (.text s)
  | .text, _ => .error (.kind "string")
  | .binary, .binary bs => .ok (.binary bs)
  | .binary, _ => .error (.kind "binary")
  | .date, .date _ | .date, .dateTime _ =>
    match v.toDate? with
    | some d => .ok (.date (Stamp.ofDate d))
    | none => .error (.range "date out of range")
  | .date, _ => .error (.kind "date")
  | .dateTime, .date _ | .dateTime, .dateTime _ =>
    match v.toMoment? with
    | some m => .ok (.dateTime (Stamp.ofMoment m))
    | none => .error (.range "datetime out of range")
  | .dateTime, _ => .error (.kind "datetime")
  | .time, .text s =>
    match Clock.parse? s.toList with
    | some t => .ok (.time (Stamp.ofClock t))
    | none => .error (.kind "time string")
  | .time, _ => .error (.kind "time string")
  | .integers, .integers l => items "integer list" .integers l
  | .integers, _ => .error (.kind "integer list")
  | .integers64, .integers64 l | .integers64, .integers l => items "integer64 list" .integers64 l
  | .integers64, _ => .error (.kind "integer64 list")
  | .reals, .reals l => items "real list" .reals l
  | .reals, .integers l | .reals, .integers64 l =>
    items "real list" .reals (l.map (·.map Binary.ofInt))
  | .reals, _ => .error (.kind "real list")
  | .texts, .texts l => items "string list" .texts l
  | .texts, _ => .error (.kind "string list")

end Field

end FeatureLayer
