import PlanDiagram.Value.Display

/-!
# Faulty uses of values

Payloads and settings are not checked in advance, so a value may be of a kind that the place where
it stands cannot use. Each way this can happen is a `Fault`, and `Fault.message` words it.
-/

namespace PlanDiagram.Value

/-- Why a value cannot be used where it stands. -/
inductive Fault where
  /-- A value without entries is walked through. -/
  | notIterable (kind : Kind)
  /-- A value without entries is counted. -/
  | noLength (kind : Kind)
  /-- A field is demanded of a value that has none. -/
  | noEntryNamed (kind : Kind)
  /-- An object lacks a field that is demanded. -/
  | missingField (name : String)
  /-- A value that is no object is asked for its fields. -/
  | noFields (kind : Kind)
  /-- No real number can be made of the value. -/
  | notReal (kind : Kind)
  /-- No integer can be made of the value. -/
  | notInteger (kind : Kind)
  /-- A text is no numeral. -/
  | unreadableReal (text : String)
  /-- A text is no integer, or one of too many digits. -/
  | unreadableInteger (text : String)
  /-- An infinite number has no integer near it. -/
  | infiniteInteger
  /-- No integer is near a result that is no number. -/
  | nanInteger
  /-- An integer lies beyond the range of doubles. -/
  | hugeInteger
deriving DecidableEq, Repr

/-- The wording of a fault. -/
def Fault.message : Fault → String
  | .notIterable kind => "'" ++ kind.name ++ "' object is not iterable"
  | .noLength kind => "object of type '" ++ kind.name ++ "' has no len()"
  | .noEntryNamed .text => "string indices must be integers, not 'str'"
  | .noEntryNamed .list => "list indices must be integers or slices, not str"
  | .noEntryNamed kind => "'" ++ kind.name ++ "' object is not subscriptable"
  | .missingField name => Text.quoted name
  | .noFields kind => "'" ++ kind.name ++ "' object has no attribute 'get'"
  | .notReal kind =>
    "float() argument must be a string or a real number, not '" ++ kind.name ++ "'"
  | .notInteger kind =>
    "int() argument must be a string, a bytes-like object or a real number, not '" ++ kind.name ++
      "'"
  | .unreadableReal s => "could not convert string to float: " ++ Text.quoted s
  | .unreadableInteger s =>
    let digits := (Number.leadingDigits s).length
    if Number.maxDigits < digits then Number.tooManyDigits digits
    else
      "invalid literal for int() with base 10: " ++ String.ofList ((Text.quoted s).toList.take 200)
  | .infiniteInteger => "cannot convert float infinity to integer"
  | .nanInteger => "cannot convert float NaN to integer"
  | .hugeInteger => "int too large to convert to float"

end PlanDiagram.Value
