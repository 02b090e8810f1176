import RecordGraph.Value.Record

/-!
Contract: lenient access to the parts of documents.

Owns: parts by name, where a part that is missing or of another kind is an empty one.
Does not own: the reading of settings that must have a form; `RecordGraph.Validation` has it.
-/

namespace RecordGraph.Value

/-- The part with a name, null if there is none. -/
def get (value : Value) (name : String) : Value :=
  match value with
  | .object fields => (field? name fields).getD .null
  | _ => .null

def chars : Value → String
  | .text chars => chars
  | _ => ""

def items : Value → List Value
  | .list items => items
  | _ => []

def fields : Value → Record
  | .object fields => fields
  | _ => []

/-- What a collection gives when it is walked through, nothing for any other value. -/
def elements (value : Value) : List Value :=
  value.elements?.getD []

def has (value : Value) (name : String) : Bool :=
  value.fields.any (·.1 == name)

def str (value : Value) (name : String) : String :=
  (value.get name).chars

def seq (value : Value) (name : String) : List Value :=
  (value.get name).items

def strs (value : Value) (name : String) : List String :=
  (value.seq name).map chars

def dict (value : Value) (name : String) : Record :=
  (value.get name).fields

def rows (value : Value) (name : String) : List Record :=
  (value.seq name).map fields

def flag (value : Value) (name : String) : Bool :=
  match value.get name with
  | .bool flag => flag
  | _ => false

/-- A truth value, or the truth of any other value, if it is there. -/
def truth (value : Value) (name : String) (default : Bool) : Bool :=
  if value.has name then (value.get name).truthy else default

def integer (value : Value) (name : String) : Int :=
  (value.get name).toInt?.getD 0

end RecordGraph.Value
