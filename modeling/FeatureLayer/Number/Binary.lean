/-!
Binary floating-point numbers of any interchange format, in exact arithmetic. A number is its
bits; `value?` reads them as a rational, `ofRat` picks the nearest number (a half goes to the
even significand), and every operation is the exact result rounded once.
-/

namespace FeatureLayer

structure Format where
  fraction : Nat
  exponent : Nat
  deriving DecidableEq, Repr

namespace Format

def single : Format := ⟨23, 8⟩

def double : Format := ⟨52, 11⟩

/-- Exponent of the last place of the smallest numbers. -/
def least (F : Format) : Int := 2 - (Nat.pow 2 (F.exponent - 1) : Int) - F.fraction

def signBit (F : Format) : Nat := Nat.pow 2 (F.fraction + F.exponent)

/-- Magnitude bits of infinity; greater magnitudes are not numbers. -/
def infinity (F : Format) : Nat := (Nat.pow 2 F.exponent - 1) * Nat.pow 2 F.fraction

end Format

/-- A floating-point number, kept as its bits so that no payload is lost. -/
structure Binary (F : Format) where
  bits : Fin (2 * F.signBit)
  deriving DecidableEq

abbrev Double := Binary .double

abbrev Single := Binary .single

/-- `n / d` to the nearest integer, a half to the even one. -/
def roundDiv (n d : Nat) : Nat :=
  let q := n / d
  let r := n % d
  if d < 2 * r ∨ (2 * r = d ∧ q % 2 = 1) then q + 1 else q

def twoPow (e : Int) : Nat × Nat :=
  if 0 ≤ e then (Nat.pow 2 e.toNat, 1) else (1, Nat.pow 2 (-e).toNat)

/-- The greatest `e` with `2 ^ e ≤ n / d`, for positive `n` and `d`. -/
def floorLog2 (n d : Nat) : Int :=
  let e : Int := (n.log2 : Int) - d.log2
  let p := twoPow e
  if d * p.1 ≤ n * p.2 then e else e - 1

namespace Binary

variable {F : Format}

theorem signBit_pos (F : Format) : 0 < F.signBit := Nat.pow_pos (by decide)

def ofParts (negative : Bool) (magnitude : Nat) : Binary F :=
  ⟨⟨(if negative then F.signBit else 0) + magnitude % F.signBit, by
    have := Nat.mod_lt magnitude (signBit_pos F)
    split <;> omega⟩⟩

def ofBits (n : Nat) : Binary F := ofParts (F.signBit ≤ n % (2 * F.signBit)) n

def negative (x : Binary F) : Bool := F.signBit ≤ x.bits.val

def magnitude (x : Binary F) : Nat := x.bits.val % F.signBit

def zero : Binary F := ofParts false 0

def infinite (negative : Bool) : Binary F := ofParts negative F.infinity

def notANumber : Binary F := ofParts false (F.infinity + Nat.pow 2 (F.fraction - 1))

instance : Inhabited (Binary F) := ⟨zero⟩

def isNaN (x : Binary F) : Bool := F.infinity < x.magnitude

def isFinite (x : Binary F) : Bool := x.magnitude < F.infinity

def significand (x : Binary F) : Nat :=
  let m := x.magnitude
  if m < Nat.pow 2 F.fraction then m else m % Nat.pow 2 F.fraction + Nat.pow 2 F.fraction

def scale (x : Binary F) : Int := F.least + (x.magnitude / Nat.pow 2 F.fraction - 1 : Nat)

def value? (x : Binary F) : Option Rat :=
  if x.isFinite then
    let p := twoPow x.scale
    let v := mkRat (x.significand * p.1 : Nat) p.2
    some (if x.negative then -v else v)
  else none

/-- Magnitude bits of the number nearest to `n / d`. A significand that rounds up to the next
power of two carries into the exponent field, and past the last one into infinity. -/
def nearest (F : Format) (n d : Nat) : Nat :=
  if n = 0 then 0 else
    let e := max (floorLog2 n d - F.fraction) F.least
    let p := twoPow e
    min F.infinity ((e - F.least).toNat * Nat.pow 2 F.fraction + roundDiv (n * p.2) (d * p.1))

def ofRat (q : Rat) : Binary F := ofParts (q < 0) (nearest F q.num.natAbs q.den)

def ofInt (n : Int) : Binary F := ofParts (n < 0) (nearest F n.natAbs 1)

/-- The position on the number line: both zeros are `0`, and greater numbers have greater keys. -/
def key (x : Binary F) : Int := if x.negative then -(x.magnitude : Int) else x.magnitude

def compare? (x y : Binary F) : Option Ordering :=
  if x.isNaN || y.isNaN then none else some (compare x.key y.key)

def lt (x y : Binary F) : Bool := compare? x y == some .lt

def le (x y : Binary F) : Bool := (compare? x y).any (· != .gt)

def same (x y : Binary F) : Bool := compare? x y == some .eq

def neg (x : Binary F) : Binary F := ofParts (!x.negative) x.magnitude

def add (x y : Binary F) : Binary F :=
  match x.value?, y.value? with
  | some a, some b =>
    if a + b = 0 then ofParts (x.negative && y.negative) 0 else ofRat (a + b)
  | none, some _ => if x.isNaN then notANumber else x
  | some _, none => if y.isNaN then notANumber else y
  | none, none =>
    if x.isNaN || y.isNaN || x.negative != y.negative then notANumber else x

def sub (x y : Binary F) : Binary F := x.add y.neg

def mul (x y : Binary F) : Binary F :=
  let s := x.negative != y.negative
  match x.value?, y.value? with
  | some a, some b => ofParts s (nearest F (a * b).num.natAbs (a * b).den)
  | _, _ =>
    if x.isNaN || y.isNaN || x.magnitude = 0 || y.magnitude = 0 then notANumber else infinite s

def div (x y : Binary F) : Binary F :=
  let s := x.negative != y.negative
  match x.value?, y.value? with
  | some a, some b =>
    if y.magnitude = 0 then
      if x.magnitude = 0 then notANumber else infinite s
    else ofParts s (nearest F (a / b).num.natAbs (a / b).den)
  | some _, none => if y.isNaN then notANumber else ofParts s 0
  | none, some _ => if x.isNaN then notANumber else infinite s
  | none, none => notANumber

instance : Add (Binary F) := ⟨add⟩
instance : Sub (Binary F) := ⟨sub⟩
instance : Mul (Binary F) := ⟨mul⟩
instance : Div (Binary F) := ⟨div⟩
instance : Neg (Binary F) := ⟨neg⟩

def trunc (x : Binary F) : Binary F :=
  match x.value? with
  | some a => ofParts x.negative (nearest F (a.num.natAbs / a.den) 1)
  | none => x

/-- The nearest integer, a half away from zero. -/
def round (x : Binary F) : Binary F :=
  match x.value? with
  | some a => ofParts x.negative (nearest F ((2 * a.num.natAbs + a.den) / (2 * a.den)) 1)
  | none => x

def fract (x : Binary F) : Binary F := x - x.trunc

/-- The integer part within `lo` and `hi`, the nearer of these beyond them; NaN gives `0`. -/
def clamp (lo hi : Int) (x : Binary F) : Int :=
  match x.value? with
  | some a => max lo (min hi (a.num.tdiv a.den))
  | none => if x.isNaN then 0 else if x.negative then lo else hi

def convert {G : Format} (x : Binary F) : Binary G :=
  match x.value? with
  | some a => ofParts x.negative (nearest G a.num.natAbs a.den)
  | none => if x.isNaN then notANumber else infinite x.negative

end Binary

end FeatureLayer
