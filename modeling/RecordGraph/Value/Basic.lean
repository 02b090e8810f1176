import RecordGraph.Text.Binary64

/-!
Contract: the values that records, parameters and documents are made of.

Owns: `Value`, its equality, alone and in containers, and the notion of a lookup key.
Does not own: the text of values; `RecordGraph.Value.Display` and `RecordGraph.Value.Json` have it.

Equality is numeric across booleans, integers and doubles, and ignores the order of an object's
fields.
-/

namespace RecordGraph

inductive Value where
  | null
  | bool (flag : Bool)
  | int (number : Int)
  | float (number : Binary64)
  | text (chars : String)
  | list (items : List Value)
  | object (fields : List (String × Value))
deriving Repr, Inhabited, BEq

namespace Value

def field? (name : String) : List (String × Value) → Option Value
  | [] => none
  | (key, value) :: rest => if key = name then some value else field? name rest

/-- The integer a boolean or an integer stands for. -/
def toInt? : Value → Option Int
  | .bool flag => some (if flag then 1 else 0)
  | .int number => some number
  | _ => none

/-- Numeric equality of scalars, and plain equality of texts. -/
def sameScalar : Value → Value → Bool
  | .null, .null => true
  | .text left, .text right => left == right
  | .float left, .float right => left.compare? right == some .eq
  | .float left, right =>
      match right.toInt? with
      | some number => left.compareInt? number == some .eq
      | none => false
  | left, .float right =>
      match left.toInt? with
      | some number => right.compareInt? number == some .eq
      | none => false
  | left, right =>
      match left.toInt?, right.toInt? with
      | some number, some number' => number == number'
      | _, _ => false

/-- Whether a value is the double that is not a number. -/
def isNaN : Value → Bool
  | .float .nan => true
  | _ => false

mutual

/-- Equality of values, by an equality of what is neither a list nor an object. -/
def sameBy (scalars : Value → Value → Bool) : Value → Value → Bool
  | .list items, .list items' => sameItemsBy scalars items items'
  | .object fields, .object fields' =>
      fields.length == fields'.length && sameFieldsBy scalars fields fields'
  | left, right => scalars left right

def sameItemsBy (scalars : Value → Value → Bool) : List Value → List Value → Bool
  | [], [] => true
  | item :: rest, item' :: rest' => sameBy scalars item item' && sameItemsBy scalars rest rest'
  | _, _ => false

/-- Every field on the left has an equal field on the right. -/
def sameFieldsBy (scalars : Value → Value → Bool) :
    List (String × Value) → List (String × Value) → Bool
  | [], _ => true
  | (name, value) :: rest, fields =>
      (match field? name fields with
        | some value' => sameBy scalars value value'
        | none => false) && sameFieldsBy scalars rest fields

end

/-- Equality of values. What is not a number equals nothing. -/
def same : Value → Value → Bool := sameBy sameScalar

/-- Equality of values that one document holds, as members of tuples, lists and objects. Members
that are one and the same are equal without being compared, and a document has only one value that
is not a number, which is the same wherever it stands. -/
def alike : Value → Value → Bool :=
  sameBy fun left right => left.sameScalar right || (left.isNaN && right.isNaN)

/-- Null, zero and everything empty count as false. -/
def truthy : Value → Bool
  | .null => false
  | .bool flag => flag
  | .int number => number != 0
  | .float number => !number.isZero
  | .text chars => !chars.isEmpty
  | .list items => !items.isEmpty
  | .object fields => !fields.isEmpty

def isNull : Value → Bool
  | .null => true
  | _ => false

/-- Scalars can be looked up; lists and objects cannot. -/
def isKey : Value → Bool
  | .list _ => false
  | .object _ => false
  | _ => true

/-- What a value gives when it is walked through: the items of a list, the names of an object, the
characters of a text. -/
def elements? : Value → Option (List Value)
  | .list items => some items
  | .object fields => some (fields.map fun field => .text field.1)
  | .text chars => some (chars.toList.map fun c => .text (String.singleton c))
  | _ => none

end Value

end RecordGraph
