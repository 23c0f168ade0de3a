import FeatureLayer.Error
import FeatureLayer.Number.Decimal
import FeatureLayer.Text.Character
/-!
The words of predicates and queries. Text stands in single quotes, and a quote inside it is written
twice; names may stand in double quotes.
-/

namespace FeatureLayer

inductive Comparison where
  | eq
  | ne
  | lt
  | le
  | gt
  | ge
  deriving DecidableEq, Repr

def Comparison.text : Comparison → String
  | eq => "="
  | ne => "<>"
  | lt => "<"
  | le => "<="
  | gt => ">"
  | ge => ">="

inductive Token where
  | name (s : String)
  | text (s : String)
  | number (v : Double)
  | comparison (c : Comparison)
  | opening
  | closing
  | comma
  deriving DecidableEq

namespace Token

def described : Token → String
  | name s => "Ident(" ++ Text.quoted s ++ ")"
  | text s => "Str(" ++ Text.quoted s ++ ")"
  | number v => "Num(" ++ v.pointedText ++ ")"
  | comparison c => "Op(" ++ Text.quoted c.text ++ ")"
  | opening => "LParen"
  | closing => "RParen"
  | comma => "Comma"

def describedOrNone : Option Token → String
  | some t => "Some(" ++ t.described ++ ")"
  | none => "None"

end Token

inductive SyntaxError where
  | openText
  | openName
  | badNumber (literal : String)
  | badCharacter (c : Char)
  | empty
  | expected (what : String) (found : Option Token)
  | expectedNull
  | expectedLikeOrIn
  | notLiteral
  | unknownField (name : String)
  | unexpected (t : Token)
  deriving DecidableEq

namespace SyntaxError

def message : SyntaxError → String
  | openText => "unterminated string literal"
  | openName => "unterminated quoted identifier"
  | badNumber literal => s!"invalid number '{literal}'"
  | badCharacter c => "unexpected character '" ++ c.toString ++ "'"
  | empty => "empty predicate"
  | expected what found => "expected " ++ what ++ ", found " ++ Token.describedOrNone found
  | expectedNull => "expected NULL after IS"
  | expectedLikeOrIn => "expected LIKE or IN after NOT"
  | notLiteral => "IN expects a list of literals"
  | unknownField name => s!"\"{name}\" not recognised as an available field"
  | unexpected t => "unexpected " ++ t.described

end SyntaxError

namespace Token

def readText : List Char → Option (List Char × List Char)
  | '\'' :: '\'' :: cs => (readText cs).map fun r => ('\'' :: r.1, r.2)
  | '\'' :: cs => some ([], cs)
  | c :: cs => (readText cs).map fun r => (c :: r.1, r.2)
  | [] => none

def readName (cs : List Char) : Option (List Char × List Char) :=
  match cs.dropWhile (· ≠ '"') with
  | [] => none
  | _ :: rest => some (cs.takeWhile (· ≠ '"'), rest)

def isExponent (c : Char) : Bool := c = 'e' || c = 'E'

def isSign (c : Char) : Bool := c = '-' || c = '+'

/-- Whether `c` continues a number after `last`, seen that `rest` follows. -/
def continuesNumber (last c : Char) (rest : List Char) : Bool :=
  c.isDigit || c = '.' || (isExponent c && rest.head?.any fun n => n.isDigit || isSign n) ||
    (isSign c && isExponent last)

def readNumber (last : Char) : List Char → List Char × List Char
  | [] => ([], [])
  | c :: cs =>
    if continuesNumber last c cs then
      let r := readNumber c cs
      (c :: r.1, r.2)
    else ([], c :: cs)

def startsNumber (c : Char) (rest : List Char) : Bool :=
  c.isDigit || (c = '.' && rest.head?.any Char.isDigit) ||
    (c = '-' && rest.head?.any fun n => n.isDigit || n = '.')

def continuesWord (c : Char) : Bool := Text.isAlphanumeric c || c = '_'

def read (c : Char) (cs : List Char) : Except SyntaxError (Token × List Char) :=
  if c = '(' then .ok (opening, cs)
  else if c = ')' then .ok (closing, cs)
  else if c = ',' then .ok (comma, cs)
  else if c = '\'' then
    match readText cs with
    | some (s, rest) => .ok (text (.ofList s), rest)
    | none => .error .openText
  else if c = '"' then
    match readName cs with
    | some (s, rest) => .ok (name (.ofList s), rest)
    | none => .error .openName
  else if c = '=' then .ok (comparison .eq, cs)
  else if c = '!' ∧ cs.head? = some '=' then .ok (comparison .ne, cs.tail)
  else if c = '<' then
    match cs with
    | '=' :: rest => .ok (comparison .le, rest)
    | '>' :: rest => .ok (comparison .ne, rest)
    | _ => .ok (comparison .lt, cs)
  else if c = '>' then
    match cs with
    | '=' :: rest => .ok (comparison .ge, rest)
    | _ => .ok (comparison .gt, cs)
  else if startsNumber c cs then
    let (tail, rest) := readNumber c cs
    match Binary.parse? (c :: tail) with
    | some v => .ok (number v, rest)
    | none => .error (.badNumber (.ofList (c :: tail)))
  else if Text.isAlphabetic c || c = '_' then
    .ok (name (.ofList (c :: cs.takeWhile continuesWord)), cs.dropWhile continuesWord)
  else .error (.badCharacter c)

def readAll : (fuel : Nat) → List Char → Except SyntaxError (List Token)
  | _, [] | 0, _ => .ok []
  | fuel + 1, c :: cs =>
    if Text.isWhiteSpace c then readAll fuel cs
    else do
      let (t, rest) ← read c cs
      .ok (t :: (← readAll fuel rest))

def tokenize (cs : List Char) : Except SyntaxError (List Token) := readAll cs.length cs

end Token

end FeatureLayer
