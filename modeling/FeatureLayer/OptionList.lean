import FeatureLayer.Error
/-!
Ordered lists of `KEY=VALUE` options. Keys are words of ASCII letters, digits and underscores, each
held once whatever its case; values are single lines.
-/

namespace FeatureLayer

structure OptionList where
  entries : List (String × String)
  deriving DecidableEq, Repr

namespace OptionList

inductive Malformed where
  | name (name : String)
  | value (value : String)
  | entry (entry : String)
  deriving DecidableEq, Repr

def Malformed.error : Malformed → Error
  | name n => .badArgument s!"Invalid characters in name: '{n}'"
  | value v => .badArgument s!"Invalid characters in value: '{v}'"
  | entry e => .badArgument s!"Expected KEY=VALUE, got '{e}'"

def empty : OptionList := ⟨[]⟩

instance : Inhabited OptionList := ⟨empty⟩

def isKey (name : String) : Bool :=
  !name.isEmpty && name.toList.all fun c => c.isAlphanum || c = '_'

def isLine (value : String) : Bool := value.toList.all fun c => c ≠ '\n' && c ≠ '\r'

/-- Gives the entry of that key the new value in place, or adds one at the end. -/
def assign (name value : String) : List (String × String) → List (String × String)
  | [] => [(name, value)]
  | e :: es => if Text.sameWord e.1 name then (e.1, value) :: es else e :: assign name value es

def set (l : OptionList) (name value : String) : Except Malformed OptionList :=
  if !isKey name then .error (.name name)
  else if !isLine value then .error (.value value)
  else .ok ⟨assign name value l.entries⟩

def splitEntry (cs : List Char) : Option (List Char × List Char) :=
  match cs.dropWhile (· ≠ '=') with
  | [] => none
  | _ :: value => some (cs.takeWhile (· ≠ '='), value)

def add (l : OptionList) (entry : String) : Except Malformed OptionList :=
  match splitEntry entry.toList with
  | none => .error (.entry entry)
  | some (name, value) => l.set (.ofList (Text.trim name)) (.ofList value)

def ofStrings (entries : List String) : Except Malformed OptionList := entries.foldlM add empty

def find? (l : OptionList) (key : String) : Option String :=
  (l.entries.find? fun e => Text.sameWord e.1 key).map (·.2)

/-- Whether the option is switched on; four words switch it off, any other value is on. -/
def isOn (l : OptionList) (key : String) (default : Bool) : Bool :=
  match l.find? key with
  | none => default
  | some v => !(["NO", "FALSE", "OFF", "0"].contains (v.map Char.toUpper))

def toStrings (l : OptionList) : List String := l.entries.map fun e => e.1 ++ "=" ++ e.2

def lines (l : OptionList) : String := String.join (l.toStrings.map (· ++ "\n"))

end OptionList

end FeatureLayer
