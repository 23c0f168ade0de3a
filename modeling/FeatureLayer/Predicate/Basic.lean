import FeatureLayer.Datum
import FeatureLayer.Predicate.Like
import FeatureLayer.Predicate.Token
/-!
Predicates on records, in three-valued logic: a record matches only when the predicate is known to be
true of it.
-/

namespace FeatureLayer

inductive Scalar where
  | null
  | number (v : Double)
  | text (s : String)
  deriving DecidableEq

inductive Operand where
  | field (index : Nat)
  | fid
  | literal (s : Scalar)
  deriving DecidableEq

inductive Predicate where
  | compare (left : Operand) (c : Comparison) (right : Operand)
  | like (operand : Operand) (pattern : String) (negated : Bool)
  | among (operand : Operand) (values : List Scalar) (negated : Bool)
  | isNull (operand : Operand) (negated : Bool)
  | not (p : Predicate)
  | and (p q : Predicate)
  | or (p q : Predicate)
  deriving DecidableEq

def compareTexts : List Char → List Char → Ordering
  | [], [] => .eq
  | [], _ :: _ => .lt
  | _ :: _, [] => .gt
  | a :: as, b :: bs =>
    if a.toNat < b.toNat then .lt else if b.toNat < a.toNat then .gt else compareTexts as bs

namespace Scalar

def isNull : Scalar → Bool
  | null => true
  | _ => false

def numberOf? (s : String) : Option Double := Binary.parse? (Text.trim s.toList)

/-- How two scalars compare, if they do. Beside a number a text is read as one. -/
def compare? : Scalar → Scalar → Option Ordering
  | null, _ | _, null => none
  | number a, number b => a.compare? b
  | text a, text b => some (compareTexts a.toList b.toList)
  | number a, text b => (numberOf? b).bind fun b => (b.compare? a).map (·.swap)
  | text a, number b => (numberOf? a).bind fun a => a.compare? b

end Scalar

namespace Stamp

def isoDate (t : Stamp) : String :=
  zeroPadded 4 t.year ++ "-" ++ zeroPadded 2 t.month ++ "-" ++ zeroPadded 2 t.day

def isoTime (t : Stamp) : String :=
  zeroPadded 2 t.hour ++ ":" ++ zeroPadded 2 t.minute ++ ":" ++
    zeroPadded 2 (t.second.clamp 0 ((Nat.pow 2 32 : Int) - 1))

end Stamp

/-- What predicates see of a datum. Binary data and lists are as good as null. -/
def Datum.scalar : Datum → Scalar
  | .integer v | .integer64 v => .number (Binary.ofInt v)
  | .real v => .number v
  | .text s => .text s
  | .date t => .text t.isoDate
  | .dateTime t => .text (t.isoDate ++ "T" ++ t.isoTime)
  | .time t => .text t.isoTime
  | _ => .null

def Comparison.accepts : Comparison → Ordering → Bool
  | eq, o => o == .eq
  | ne, o => o != .eq
  | lt, o => o == .lt
  | le, o => o != .gt
  | gt, o => o == .gt
  | ge, o => o != .lt

def Kleene.and : Option Bool → Option Bool → Option Bool
  | some false, _ | _, some false => some false
  | some true, some true => some true
  | _, _ => none

def Kleene.or : Option Bool → Option Bool → Option Bool
  | some true, _ | _, some true => some true
  | some false, some false => some false
  | _, _ => none

namespace Predicate

def scalarOf (fid : Int) (data : List Datum) : Operand → Scalar
  | .field i => (data[i]?.map (·.scalar)).getD .null
  | .fid => .number (Binary.ofInt fid)
  | .literal s => s

/-- Whether a value is among others: known to be if it equals one, and known not to be only if it
compares with all. -/
def isAmong (s : Scalar) (values : List Scalar) : Option Bool :=
  if values.any fun v => s.compare? v == some .eq then some true
  else if values.any fun v => (s.compare? v).isNone then none
  else some false

def likeText (s : String) (pattern : String) : Bool :=
  FeatureLayer.like Text.lower pattern.toList s.toList

/-- The truth of a predicate for a record; none when it is unknown. -/
def eval (fid : Int) (data : List Datum) : Predicate → Option Bool
  | compare l c r => ((scalarOf fid data l).compare? (scalarOf fid data r)).map c.accepts
  | like o pattern negated =>
    match scalarOf fid data o with
    | .null => none
    | .text s => some (likeText s pattern != negated)
    | .number v => some (likeText v.text pattern != negated)
  | among o values negated =>
    let s := scalarOf fid data o
    if s.isNull then none else (isAmong s values).map (· != negated)
  | isNull o negated => some ((scalarOf fid data o).isNull != negated)
  | not p => (p.eval fid data).map (!·)
  | and p q => Kleene.and (p.eval fid data) (q.eval fid data)
  | or p q => Kleene.or (p.eval fid data) (q.eval fid data)

def holds (p : Predicate) (fid : Int) (data : List Datum) : Bool := p.eval fid data = some true

end Predicate

end FeatureLayer
