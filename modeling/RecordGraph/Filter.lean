import RecordGraph.Sql.Statement
import RecordGraph.Text.Lowercase
import RecordGraph.Value.Display

/-!
Contract: filters, which narrow and sort selections.

Owns: `Filter`, its construction from operators and column names, and its application.
Does not own: conditions and orderings themselves.

A filter names columns as the selection that it is applied to selects them, so that the same filter
fits every selection with such columns.
-/

namespace RecordGraph

open RecordGraph.Sql RecordGraph.Text

inductive Filter where
  | pass
  /-- Fits no selection. -/
  | refuse (error : Error)
  /-- Compares a column with a value. If nulls are skipped, null compares with nothing. -/
  | compare (column : String) (operator : Operator) (value : Value) (skipNull : Bool)
  /-- Compares the column at a place. -/
  | compareAt (position : Int) (missing : Error) (operator : Operator) (value : Value)
      (skipNull : Bool)
  | restrict (condition : Condition)
  /-- Sorts by columns, in descending order where asked for. -/
  | sortBy (columns : List (String × Bool))
  /-- One filter after the other. -/
  | both (first second : Filter)
deriving Repr, Inhabited

namespace Filter

/-- Fits no selection, unless null is compared and skipped. -/
def refuseUnlessSkipped (error : Error) (value : Value) (skipNull : Bool) : Filter :=
  if value.isNull && skipNull then .pass else .refuse error

/-- Comparison of the column that a value stands for: a text is its name, a number its place. -/
def compareColumn (column : Value) (operator : Operator) (value : Value) (skipNull : Bool) :
    Filter :=
  let unselected : Error := .unselectedValue column.displayInner
  match column with
  | .text name => .compare name operator value skipNull
  | .int position => .compareAt position (.foreign .missingPosition) operator value skipNull
  | .bool flag =>
      .compareAt (if flag then 1 else 0) (.foreign .missingPosition) operator value skipNull
  | .float number =>
      match number.toInt? with
      | some position => .compareAt position unselected operator value skipNull
      | none => refuseUnlessSkipped unselected value skipNull
  | .null => refuseUnlessSkipped unselected value skipNull
  | .list _ | .object _ => refuseUnlessSkipped (.foreign .unhashableKey) value skipNull

/-- Comparison by the name of an operator, in any case. -/
def compareBy (column operator value : Value) (skipNull : Bool) : Result Filter :=
  let name := lowercase operator.display
  match Operator.ofName? name with
  | some operator => pure (compareColumn column operator value skipNull)
  | none => throw (.unsupportedOperator name)

def equals (column value : Value) (skipNull : Bool) : Filter :=
  compareColumn column (.compare .equal) value skipNull

/-- The column and direction of an ordering; a leading minus asks for descending order. -/
def orderColumn (text : String) : String × Bool :=
  match text.toList with
  | '-' :: rest => (String.ofList rest, true)
  | chars => (String.ofList chars, false)

def orderBy (columns : List String) : Filter :=
  .sortBy (columns.map orderColumn)

/-- The names before the first value that is no text, and whether there is such a value. -/
def leadingNames : List Value → List String × Bool
  | .text name :: rest =>
      let (names, broken) := leadingNames rest
      (name :: names, broken)
  | rest => ([], !rest.isEmpty)

/-- The ordering by columns that values name. Only a text can name one. -/
def orderByValues (columns : List Value) : Filter :=
  match leadingNames columns with
  | (names, false) => orderBy names
  | (names, true) => .both (orderBy names) (.refuse (.foreign .missingOperation))

/-- Filters from left to right. -/
def chain (filters : List Filter) : Filter :=
  filters.foldr both pass

def apply : Filter → Select → Result Select
  | .pass, select => pure select
  | .refuse error, _ => throw error
  | .compare column operator value skipNull, select =>
      if value.isNull && skipNull then pure select
      else do
        let term ← select.term column
        pure (select.restrict (← Condition.make term operator value))
  | .compareAt position missing operator value skipNull, select =>
      if value.isNull && skipNull then pure select
      else
        match select.termAt? position with
        | some term => do pure (select.restrict (← Condition.make term operator value))
        | none => throw missing
  | .restrict condition, select => pure (select.restrict condition)
  | .sortBy columns, select => do
      let order ← columns.mapM fun (name, descending) => do
        pure { term := ← select.term name, descending : OrderTerm }
      pure (select.sortBy order)
  | .both first second, select => do second.apply (← first.apply select)

/-- An optional filter; an absent one changes nothing. -/
def applyOptional (filter : Option Filter) (select : Select) : Result Select :=
  match filter with
  | some filter => filter.apply select
  | none => pure select

end Filter

end RecordGraph
