import FeatureLayer.Predicate.Basic
import FeatureLayer.Schema
/-!
Reading predicates. `NOT` binds closest, then `AND`, then `OR`; both join to the left. Keywords are
names in any case, quoted or not.
-/

namespace FeatureLayer

structure Vocabulary where
  fields : List Field
  /-- Another name of the identifier, empty if there is none. -/
  fidColumn : String
  deriving DecidableEq, Repr

namespace Vocabulary

/-- The operand of a name in any case; attributes come before the identifier. -/
def resolve (v : Vocabulary) (name : String) : Except SyntaxError Operand :=
  match v.fields.findIdx? fun f => Text.sameWord f.name name with
  | some i => .ok (.field i)
  | none =>
    if Text.sameWord name "FID" || (!v.fidColumn.isEmpty && Text.sameWord name v.fidColumn) then
      .ok .fid
    else .error (.unknownField name)

end Vocabulary

namespace Predicate

abbrev Reader (α : Type) := List Token → Except SyntaxError (α × List Token)

def keyword? (word : String) : List Token → Option (List Token)
  | .name s :: ts => if Text.sameWord s word then some ts else none
  | _ => none

def expect (t : Token) : Reader Unit
  | u :: ts => if u = t then .ok ((), ts) else .error (.expected t.described (some u))
  | [] => .error (.expected t.described none)

def operand (v : Vocabulary) : Reader Operand
  | .number n :: ts => .ok (.literal (.number n), ts)
  | .text s :: ts => .ok (.literal (.text s), ts)
  | .name s :: ts =>
    if Text.sameWord s "NULL" then .ok (.literal .null, ts)
    else (v.resolve s).map fun o => (o, ts)
  | ts => .error (.expected "an operand" ts.head?)

/-- Literals between commas up to the closing parenthesis; `fuel` bounds their number. -/
def literals (v : Vocabulary) : (fuel : Nat) → Reader (List Scalar)
  | 0, ts => .error (.expected "an operand" ts.head?)
  | fuel + 1, ts => do
    match ← operand v ts with
    | (.literal s, .comma :: ts) =>
      let (ss, ts) ← literals v fuel ts
      .ok (s :: ss, ts)
    | (.literal s, .closing :: ts) => .ok ([s], ts)
    | (.literal _, ts) => .error (.expected "',' or ')'" ts.head?)
    | _ => .error .notLiteral

def pattern : Reader String
  | .text s :: ts => .ok (s, ts)
  | ts => .error (.expected "a pattern after LIKE" ts.head?)

/-- What follows an operand and, if `negated`, the word `NOT`. -/
def test (v : Vocabulary) (o : Operand) (negated : Bool) : Reader Predicate := fun ts =>
  match keyword? "LIKE" ts, keyword? "IN" ts with
  | some ts, _ => do
    let (p, ts) ← pattern ts
    .ok (.like o p negated, ts)
  | none, some ts => do
    let ((), ts) ← expect .opening ts
    let (ss, ts) ← literals v (ts.length + 1) ts
    .ok (.among o ss negated, ts)
  | none, none =>
    if negated then .error .expectedLikeOrIn
    else
      match ts with
      | .comparison c :: ts => do
        let (r, ts) ← operand v ts
        .ok (.compare o c r, ts)
      | ts => .error (.expected "a comparison operator" ts.head?)

def nullTest (o : Operand) : Reader Predicate := fun ts =>
  let (negated, ts) := match keyword? "NOT" ts with
    | some ts => (true, ts)
    | none => (false, ts)
  match keyword? "NULL" ts with
  | some ts => .ok (.isNull o negated, ts)
  | none => .error .expectedNull

def comparison (v : Vocabulary) : Reader Predicate := fun ts => do
  let (o, ts) ← operand v ts
  match keyword? "IS" ts with
  | some ts => nullTest o ts
  | none =>
    match keyword? "NOT" ts with
    | some ts => test v o true ts
    | none => test v o false ts

def joined (word : String) (join : Predicate → Predicate → Predicate) (part : Reader Predicate) :
    (fuel : Nat) → Predicate → Reader Predicate
  | 0, p, ts => .ok (p, ts)
  | fuel + 1, p, ts =>
    match keyword? word ts with
    | none => .ok (p, ts)
    | some ts => do
      let (q, ts) ← part ts
      joined word join part fuel (join p q) ts

def chain (word : String) (join : Predicate → Predicate → Predicate) (part : Reader Predicate) :
    Reader Predicate := fun ts => do
  let (p, ts) ← part ts
  joined word join part ts.length p ts

def disjunction (part : Reader Predicate) : Reader Predicate :=
  chain "OR" .or (chain "AND" .and part)

def factor (v : Vocabulary) : (fuel : Nat) → Reader Predicate
  | 0, ts => .error (.expected "an operand" ts.head?)
  | fuel + 1, ts =>
    match keyword? "NOT" ts, ts with
    | some ts, _ => do
      let (p, ts) ← factor v fuel ts
      .ok (.not p, ts)
    | none, .opening :: ts => do
      let (p, ts) ← disjunction (factor v fuel) ts
      let ((), ts) ← expect .closing ts
      .ok (p, ts)
    | none, ts => comparison v ts

def ofTokens (v : Vocabulary) (ts : List Token) : Except SyntaxError Predicate :=
  if ts.isEmpty then .error .empty
  else do
    match ← disjunction (factor v (ts.length + 1)) ts with
    | (p, []) => .ok p
    | (_, t :: _) => .error (.unexpected t)

def parse (v : Vocabulary) (s : String) : Except SyntaxError Predicate := do
  ofTokens v (← Token.tokenize s.toList)

end Predicate

end FeatureLayer
