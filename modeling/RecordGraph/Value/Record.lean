import RecordGraph.Value.Basic

/-!
Contract: records, which are values by name in insertion order.

Owns: lookup, replacement and removal by name.
Does not own: the tables that say which names a record may have.
-/

namespace RecordGraph

/-- Values by name, in insertion order, each name once. -/
abbrev Record := List (String × Value)

namespace Record

def get? (record : Record) (name : String) : Option Value :=
  Value.field? name record

def getD (record : Record) (name : String) : Value :=
  (record.get? name).getD .null

def has (record : Record) (name : String) : Bool :=
  record.any (·.1 == name)

/-- Replaces the value of a name in place, or adds it at the end. -/
def set (name : String) (value : Value) : Record → Record
  | [] => [(name, value)]
  | (key, old) :: rest =>
      if key = name then (key, value) :: rest else (key, old) :: set name value rest

def erase (record : Record) (name : String) : Record :=
  record.filter (·.1 != name)

def names (record : Record) : List String :=
  record.map (·.1)

def sameNames (left right : Record) : Bool :=
  left.names.all right.has && right.names.all left.has

end Record

end RecordGraph
