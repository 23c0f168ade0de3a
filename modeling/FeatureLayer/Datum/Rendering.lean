import FeatureLayer.Datum

namespace FeatureLayer

namespace Stamp

def dateText (t : Stamp) : String :=
  zeroPadded 4 t.year ++ "/" ++ zeroPadded 2 t.month ++ "/" ++ zeroPadded 2 t.day

def timeText (t : Stamp) : String :=
  let seconds := if t.second.fract.same Binary.zero
    then zeroPadded 2 (t.second.clamp 0 ((Nat.pow 2 32 : Int) - 1)) else t.second.fixedText
  zeroPadded 2 t.hour ++ ":" ++ zeroPadded 2 t.minute ++ ":" ++ seconds

end Stamp

namespace Datum

def hexByte (b : UInt8) : String :=
  .ofList ([b.toNat / 16, b.toNat % 16].map fun n => (Nat.digitChar n).toUpper)

def listText (items : List String) : String :=
  "(" ++ toString items.length ++ ":" ++ ",".intercalate items ++ ")"

def rendered : Datum → String
  | unset | null => ""
  | integer v | integer64 v => toString v
  | real v => v.text
  | text v => v
  | binary v => String.join (v.map hexByte)
  | date v => v.dateText
  | dateTime v => v.dateText ++ " " ++ v.timeText
  | time v => v.timeText
  | integers v | integers64 v => listText (v.map fun n => toString n)
  | reals v => listText (v.map (·.text))
  | texts v => listText v

end Datum

end FeatureLayer
