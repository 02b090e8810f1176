import RecordGraph.Value.Basic
import RecordGraph.Text.Decimal
import RecordGraph.Text.Quoted

/-!
Contract: the display text of values.

Owns: `Value.display`, the question whether a value has such a text, and the name of a value's kind in
messages.
Does not own: document text.

Absence and truth values are written `None`, `True` and `False`; texts inside lists and objects are
quoted. The longest integers are not written.
-/

namespace RecordGraph.Value

open RecordGraph.Text

mutual

/-- The text of a value inside a list or an object. -/
def displayInner : Value → String
  | .null => "None"
  | .bool flag => if flag then "True" else "False"
  | .int number => toString number
  | .float number => showFloat number
  | .text chars => quote chars
  | .list items => "[" ++ ", ".intercalate (displayItems items) ++ "]"
  | .object fields => "\x7b" ++ ", ".intercalate (displayFields fields) ++ "\x7d"

def displayItems : List Value → List String
  | [] => []
  | item :: rest => displayInner item :: displayItems rest

def displayFields : List (String × Value) → List String
  | [] => []
  | (name, value) :: rest => (quote name ++ ": " ++ displayInner value) :: displayFields rest

end

/-- The text of a value on its own; a text is its own display. -/
def display : Value → String
  | .text chars => chars
  | value => displayInner value

mutual

/-- Whether every integer in a value can be written. -/
def isDisplayed : Value → Bool
  | .int number => (Nat.toDigits 10 number.natAbs).length ≤ maxIntegerDigits
  | .list items => areDisplayed items
  | .object fields => fieldsDisplayed fields
  | _ => true

def areDisplayed : List Value → Bool
  | [] => true
  | item :: rest => isDisplayed item && areDisplayed rest

def fieldsDisplayed : List (String × Value) → Bool
  | [] => true
  | (_, value) :: rest => isDisplayed value && fieldsDisplayed rest

end

def kindName : Value → String
  | .null => "NoneType"
  | .bool _ => "bool"
  | .int _ => "int"
  | .float _ => "float"
  | .text _ => "str"
  | .list _ => "list"
  | .object _ => "dict"

end RecordGraph.Value
