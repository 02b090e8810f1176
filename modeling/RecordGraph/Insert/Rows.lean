import RecordGraph.Error
import RecordGraph.Value.Record

/-!
Contract: the rows of an insert, read from a value.

Owns: the reading of one row or many.
Does not own: agreement with the columns of a table; `RecordGraph.Insert.Compile` has it.

An object is one row. Any other collection holds rows, each of them an object, or a collection of
pairs of a name and a value. Of repeated names the last value counts, at the place of the first.
-/

namespace RecordGraph

/-- A name and a value, before it is known that the name is a text. -/
abbrev Pair := Value × Value

namespace Pair

/-- The pair in a collection of two. Its first part must be fit for a lookup. -/
def read (value : Value) : Result Pair :=
  match value.elements? with
  | none => throw (.foreign .notIterable)
  | some [name, content] =>
      if name.isKey then pure (name, content) else throw (.foreign .unhashableKey)
  | some _ => throw (.foreign .badConversion)

/-- The pairs of a row. -/
def readAll : Value → Result (List Pair)
  | .object fields => pure (fields.map fun field => (.text field.1, field.2))
  | value =>
      match value.elements? with
      | some items => items.mapM read
      | none => throw (.foreign .notIterable)

def toRecord (pairs : List Pair) : Result Record :=
  pairs.foldlM (fun record pair =>
    match pair.1 with
    | .text name => pure (record.set name pair.2)
    | _ => throw (.foreign .invalidComparison)) []

end Pair

namespace Record

def readRows : Value → Result (List Record)
  | .object fields => pure [fields]
  | value =>
      match value.elements? with
      | some items => do (← items.mapM Pair.readAll).mapM Pair.toRecord
      | none => throw (.foreign .notIterable)

end Record

end RecordGraph
