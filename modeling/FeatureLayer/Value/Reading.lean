import FeatureLayer.Datum.Rendering
import FeatureLayer.Error
import FeatureLayer.Schema
import FeatureLayer.Value

namespace FeatureLayer

/-- A result of arithmetic in 32 bits, which stops the program when it does not fit. -/
def int32 (n : Int) : Except Panic Int :=
  if -(Nat.pow 2 31 : Int) ≤ n ∧ n < Nat.pow 2 31 then .ok n else .error .overflow

namespace Stamp

def date? (t : Stamp) : Option Date := Date.ofParts? t.year t.month t.day

def dayNumber? (t : Stamp) : Option Int := t.date?.map (·.dayNumber)

/-- Seconds since the start of 1970 by the clock of the zone. Fractions count to the millisecond, beyond
which single numbers hold noise. -/
def clockSeconds? (t : Stamp) : Option Double := do
  let date ← t.date?
  let whole := t.second.trunc
  let clock ← Clock.ofParts? t.hour t.minute (whole.clamp 0 ((Nat.pow 2 32 : Int) - 1)).toNat
  let fraction : Double := (t.second - whole).convert
  let thousand : Double := Binary.ofInt 1000
  let seconds : Double := Binary.ofInt (Moment.epochSeconds ⟨date, clock⟩)
  some (seconds + (fraction * thousand).round / thousand)

/-- Seconds that the zone lies ahead of UTC, computed in 32 bits. Times of unknown or local zone are
taken as UTC. -/
def zoneSeconds (t : Stamp) : Except Panic Int :=
  if 1 < t.zone ∧ t.zone ≠ 100 then do
    let steps ← int32 (t.zone - 100)
    let minutes ← int32 (steps * 15)
    int32 (minutes * 60)
  else .ok 0

/-- Seconds since the start of 1970 in UTC. The zone of a time that does not exist is never computed. -/
def epochSeconds (t : Stamp) : Except Panic (Option Double) :=
  match t.clockSeconds? with
  | none => .ok none
  | some seconds => t.zoneSeconds.map fun east =>
    some (if east = 0 then seconds else seconds - Binary.ofInt east)

/-- The same, with nothing where the program stops. -/
def epochSeconds? (t : Stamp) : Option Double := t.epochSeconds.toOption.join

end Stamp

namespace Value

def absent : FieldKind → Value
  | .integers => .integers [none]
  | .integers64 => .integers64 [none]
  | .reals => .reals [none]
  | .texts => .texts [none]
  | _ => .null

/-- The value of a datum in a field of that kind, unless reading it stops the program. Data of other
kinds are read as text. -/
def ofDatum (kind : FieldKind) (subkind : Subkind) (d : Datum) : Value :=
  if d.isAbsent then absent kind else
    match kind, d with
    | .integer, .integer v => if subkind = .boolean then .boolean (v ≠ 0) else .integer v
    | .integer64, .integer64 v | .integer64, .integer v => .integer64 v
    | .real, .real v => .real v
    | .text, .text v => .text v
    | .binary, .binary v => .binary v
    | .date, .date t | .date, .dateTime t => (t.dayNumber?.map .date).getD .null
    | .dateTime, .dateTime t | .dateTime, .date t => (t.epochSeconds?.map .dateTime).getD .null
    | .integers, .integers v =>
      .integers (v.map fun n => some (if subkind = .boolean ∧ n ≠ 0 then 1 else n))
    | .integers64, .integers64 v => .integers64 (v.map some)
    | .reals, .reals v => .reals (v.map some)
    | .texts, .texts v => .texts (v.map some)
    | _, d => .text d.rendered

/-- The value of a datum as the program reads it. Only data that hold a time can stop it. -/
def read (kind : FieldKind) (subkind : Subkind) (d : Datum) : Except Panic Value :=
  match kind, d with
  | .dateTime, .dateTime t | .dateTime, .date t =>
    t.epochSeconds.map fun seconds => (seconds.map .dateTime).getD .null
  | _, _ => .ok (ofDatum kind subkind d)

end Value

end FeatureLayer
