import FeatureLayer.Number.Binary
/-!
Decimal text of binary numbers. Reading rounds the exact decimal once. Writing takes the fewest
digits that read back as the number and, of those, the nearest.
-/

namespace FeatureLayer

def tenPow (e : Int) : Nat × Nat :=
  if 0 ≤ e then (Nat.pow 10 e.toNat, 1) else (1, Nat.pow 10 (-e).toNat)

/-- The greatest `e` with `10 ^ e ≤ n / d`, for positive `n` and `d`. The binary logarithm leaves
at most one candidate above the estimate. -/
def floorLog10 (n d : Nat) : Int :=
  let e := (floorLog2 n d * 30103).fdiv 100000
  let reached (e : Int) : Bool := let p := tenPow e; d * p.1 ≤ n * p.2
  if reached (e + 1) then e + 1 else if reached e then e else e - 1

structure Decimal where
  digits : Nat
  exponent : Int
  deriving DecidableEq, Repr

namespace Decimal

def positional (d : Decimal) : List Char :=
  let ds := Nat.toDigits 10 d.digits
  if 0 ≤ d.exponent then ds ++ List.replicate d.exponent.toNat '0'
  else
    let places := (-d.exponent).toNat
    let ds := List.replicate (places + 1 - ds.length) '0' ++ ds
    ds.take (ds.length - places) ++ '.' :: ds.drop (ds.length - places)

def scientific (d : Decimal) : List Char :=
  match Nat.toDigits 10 d.digits with
  | [] => []
  | c :: cs =>
    let e := d.exponent + cs.length
    c :: (if cs.isEmpty then [] else '.' :: cs) ++ 'e' :: (toString e).toList

end Decimal

namespace Binary

variable {F : Format}

/-- The first decimal grid with a point that reads back as `value / den`, whose neighbours' midpoints
are `lower / den` and `upper / den`. Of two such points the nearer wins, the upper one in a tie.
Only on the first grid can that point be a power of ten above the value's own digits. -/
def shortestFrom (value lower upper den : Nat) (closed : Bool) (top : Int) :
    (fuel n : Nat) → Decimal
  | fuel, n =>
    let e := top - n + 1
    let p := tenPow e
    let lo := value * p.2 / (den * p.1)
    let at_ (c : Nat) : Nat := c * p.1 * den
    let inside (c : Nat) : Bool :=
      if closed then lower * p.2 ≤ at_ c && at_ c ≤ upper * p.2
      else lower * p.2 < at_ c && at_ c < upper * p.2
    let point (c : Nat) : Decimal := if c = 10 ∧ n = 1 then ⟨1, e + 1⟩ else ⟨c, e⟩
    match fuel with
    | 0 => point lo
    | fuel + 1 =>
      match inside lo, inside (lo + 1) with
      | true, true =>
        if value * p.2 - at_ lo < at_ (lo + 1) - value * p.2 then point lo else point (lo + 1)
      | true, false => point lo
      | false, true => point (lo + 1)
      | false, false => shortestFrom value lower upper den closed top fuel (n + 1)

/-- The shortest decimal of a finite number's magnitude. Numbers that read as `x` lie between the
midpoints to its neighbours, and the midpoints belong to even significands; below a power of two the
lower neighbour is half as far. -/
def shortest (x : Binary F) : Decimal :=
  let m := x.significand
  if m = 0 then ⟨0, 0⟩ else
    let p := twoPow (x.scale - 2)
    let below := if m = Nat.pow 2 F.fraction ∧ F.least < x.scale then 1 else 2
    shortestFrom (4 * m * p.1) ((4 * m - below) * p.1) ((4 * m + 2) * p.1) p.2 (m % 2 = 0)
      (floorLog10 (4 * m * p.1) p.2) (F.fraction + 2) 1

def signText (x : Binary F) : List Char := if x.negative then ['-'] else []

def specialText (x : Binary F) : List Char :=
  if x.isNaN then "NaN".toList else x.signText ++ "inf".toList

def text (x : Binary F) : String :=
  .ofList <| if x.isFinite then x.signText ++ x.shortest.positional else x.specialText

/-- The form that always shows a point or an exponent: positional from `1e-4` up to `1e16`. -/
def pointedText (x : Binary F) : String :=
  .ofList <| if x.isFinite then
      let d := x.shortest
      let top := d.exponent + (Nat.toDigits 10 d.digits).length
      x.signText ++
        if d.digits ≠ 0 ∧ (top ≤ -4 ∨ 17 ≤ top) then d.scientific
        else if 0 ≤ d.exponent then d.positional ++ ".0".toList
        else d.positional
    else x.specialText

def padded (width : Nat) (sign body : List Char) : List Char :=
  sign ++ List.replicate (width - sign.length - body.length) '0' ++ body

/-- Three decimals, a half to the even digit, filled with zeros to six characters. -/
def fixedText (x : Binary F) : String :=
  .ofList <| match x.value? with
    | some a => padded 6 x.signText (Decimal.positional ⟨roundDiv (1000 * a.num.natAbs) a.den, -3⟩)
    | none => padded 6 (if x.isNaN then [] else x.signText) (if x.isNaN then "NaN" else "inf").toList

/-- The number nearest to `digits * 10 ^ exponent`, where `digits` has at most `length` digits.
Exponents beyond every number of the format are settled before any power is formed. -/
def ofDecimal (negative : Bool) (digits length : Nat) (exponent : Int) : Binary F :=
  let far : Int := Nat.pow 2 F.exponent
  if digits = 0 ∨ exponent + length < -far then ofParts negative 0
  else if far < exponent then infinite negative
  else
    let p := tenPow exponent
    ofParts negative (nearest F (digits * p.1) p.2)

def readExponent : List Char → Option Int
  | [] => some 0
  | c :: cs =>
    if c = 'e' ∨ c = 'E' then
      let (negative, ds) := match cs with
        | '-' :: r => (true, r)
        | '+' :: r => (false, r)
        | _ => (false, cs)
      if ds.isEmpty || !ds.all Char.isDigit then none
      else
        let n : Int := Nat.ofDigitChars 10 ds 0
        some (if negative then -n else n)
    else none

def readUnsigned (negative : Bool) (cs : List Char) : Option (Binary F) :=
  let whole := cs.takeWhile Char.isDigit
  let rest := cs.dropWhile Char.isDigit
  let (places, rest) := match rest with
    | '.' :: r => (r.takeWhile Char.isDigit, r.dropWhile Char.isDigit)
    | _ => ([], rest)
  let ds := whole ++ places
  if ds.isEmpty then none
  else (readExponent rest).map fun e =>
    ofDecimal negative (Nat.ofDigitChars 10 ds 0) ds.length (e - places.length)

def parse? (cs : List Char) : Option (Binary F) :=
  let (negative, body) := match cs with
    | '-' :: r => (true, r)
    | '+' :: r => (false, r)
    | _ => (false, cs)
  let word := body.map Char.toLower
  if word = "inf".toList ∨ word = "infinity".toList then some (infinite negative)
  else if word = "nan".toList then some notANumber
  else readUnsigned negative body

end Binary

def readInteger (lo hi : Int) (cs : List Char) : Option Int :=
  let (negative, ds) := match cs with
    | '-' :: r => (true, r)
    | '+' :: r => (false, r)
    | _ => (false, cs)
  if ds.isEmpty || !ds.all Char.isDigit then none
  else
    let n : Int := Nat.ofDigitChars 10 ds 0
    let v := if negative then -n else n
    if lo ≤ v ∧ v ≤ hi then some v else none

def zeroPadded (width : Nat) (n : Int) : String :=
  .ofList (Binary.padded width (if n < 0 then ['-'] else []) (Nat.toDigits 10 n.natAbs))

end FeatureLayer
