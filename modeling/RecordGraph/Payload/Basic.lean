import RecordGraph.Value.Display
import RecordGraph.Value.Record

/-!
Contract: nested payloads of graph inserts.

Owns: `Payload` and its two directions of conversion to values.
Does not own: payloads given with shared parts; `RecordGraph.Payload.Shared` has them.

A payload is a value, save that an object may enclose itself. The place where an object occurs
inside itself is `again`: what it holds is never looked at.
-/

namespace RecordGraph

inductive Payload where
  | scalar (value : Value)
  | list (items : List Payload)
  | object (fields : List (String × Payload))
  | again
deriving Repr, Inhabited

namespace Payload

mutual

def ofValue : Value → Payload
  | .list items => .list (ofItems items)
  | .object fields => .object (ofFields fields)
  | value => .scalar value

def ofItems : List Value → List Payload
  | [] => []
  | item :: rest => ofValue item :: ofItems rest

def ofFields : List (String × Value) → List (String × Payload)
  | [] => []
  | (name, value) :: rest => (name, ofValue value) :: ofFields rest

end

mutual

/-- The value of a payload; an object inside itself has none and counts as null. -/
def toValue : Payload → Value
  | .scalar value => value
  | .list items => .list (toItems items)
  | .object fields => .object (toFields fields)
  | .again => .null

def toItems : List Payload → List Value
  | [] => []
  | item :: rest => toValue item :: toItems rest

def toFields : List (String × Payload) → List (String × Value)
  | [] => []
  | (name, payload) :: rest => (name, toValue payload) :: toFields rest

end

def isNull : Payload → Bool
  | .scalar value => value.isNull
  | _ => false

def kindName : Payload → String
  | .scalar value => value.kindName
  | .list _ => (Value.list []).kindName
  | .object _ | .again => (Value.object []).kindName

end Payload

end RecordGraph
