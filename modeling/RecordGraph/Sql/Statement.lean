import RecordGraph.Error
import RecordGraph.Sql.Parameter
import RecordGraph.Value.Record

/-!
Contract: the statements that the library issues.

Owns: conditions, selections, insertions and changes.
Does not own: their text, which is `RecordGraph.Sql.Render`'s, and their effect on stored rows,
which is `RecordGraph.Store.Evaluate`'s.
-/

namespace RecordGraph.Sql

/-! ## Conditions -/

/-- A column that a query compares or sorts by. -/
structure Term where
  column : ColumnRef
  type : ColumnType
  /-- The name by which the query selects it, if that is not its own. -/
  label : Option String := none
deriving DecidableEq, Repr, Inhabited

def Term.ofColumn (table : Table) (column : Column) : Term :=
  { column := ⟨table.name, column.name⟩, type := column.type }

/-- Comparisons with one operand. -/
inductive Comparison where
  | equal
  | unequal
  | greater
  | greaterEqual
  | less
  | lessEqual
  | like
  /-- Like, without regard to case. -/
  | ilike
deriving DecidableEq, Repr, Inhabited

inductive Operator where
  | compare (comparison : Comparison)
  | among
  | notAmong
deriving DecidableEq, Repr, Inhabited

def Operator.ofName? : String → Option Operator
  | "=" | "eq" => some (.compare .equal)
  | "!=" | "ne" => some (.compare .unequal)
  | ">" | "gt" => some (.compare .greater)
  | ">=" | "gte" => some (.compare .greaterEqual)
  | "<" | "lt" => some (.compare .less)
  | "<=" | "lte" => some (.compare .lessEqual)
  | "like" => some (.compare .like)
  | "ilike" => some (.compare .ilike)
  | "in" => some .among
  | "not_in" => some .notAmong
  | _ => none

inductive Condition where
  | isNull (term : Term)
  | isNotNull (term : Term)
  /-- Equality with a truth value, which is part of the text and no parameter. -/
  | isFlag (term : Term) (flag : Bool)
  | isNotFlag (term : Term) (flag : Bool)
  | compare (comparison : Comparison) (term : Term) (value : Value)
  | among (term : Term) (values : List Value)
  | notAmong (term : Term) (values : List Value)
deriving Repr, Inhabited

namespace Condition

/-- Nothing but equality can be asked of null and of truth values. -/
def ofComparison (term : Term) : Comparison → Value → Result Condition
  | .equal, .null => pure (.isNull term)
  | .unequal, .null => pure (.isNotNull term)
  | .equal, .bool flag => pure (.isFlag term flag)
  | .unequal, .bool flag => pure (.isNotFlag term flag)
  | _, .null | _, .bool _ => throw (.foreign .invalidComparison)
  | comparison, value => pure (.compare comparison term value)

/-- The members that a membership asks about: the items of a list, or the names of an object. -/
def members : Value → Result (List Value)
  | .text _ => throw (.foreign .invalidComparison)
  | value =>
      match value.elements? with
      | some members => pure members
      | none => throw (.foreign .invalidComparison)

def make (term : Term) (operator : Operator) (value : Value) : Result Condition :=
  match operator with
  | .compare comparison => ofComparison term comparison value
  | .among => do pure (.among term (← members value))
  | .notAmong => do pure (.notAmong term (← members value))

/-- Equality with any value. -/
def equal (term : Term) : Value → Condition
  | .null => .isNull term
  | .bool flag => .isFlag term flag
  | value => .compare .equal term value

end Condition

/-! ## Statements -/

/-- The join of a table with a join table, whose owner column is selected under a label. -/
structure Join where
  through : Table
  /-- The column of the join table that names the owner. -/
  owner : Column
  /-- The column of the join table that names the joined row. -/
  link : String
  /-- The column of the joined row that `link` holds. -/
  key : String
  label : String
deriving DecidableEq, Repr, Inhabited

structure OrderTerm where
  term : Term
  descending : Bool
deriving DecidableEq, Repr, Inhabited

structure Select where
  table : Table
  join : Option Join := none
  conditions : List Condition := []
  order : List OrderTerm := []
deriving Repr, Inhabited

namespace Select

def ofTable (table : Table) : Select := { table }

/-- Whether the label of the owner column is also the name of a column of the table. Such a name
means the column of the table. -/
def isAmbiguous (select : Select) : Bool :=
  select.join.any fun join => select.table.hasColumn join.label

def ownerTerm (join : Join) : Term :=
  { column := ⟨join.through.name, join.owner.name⟩, type := join.owner.type,
    label := some join.label }

/-- The selected column with a name. -/
def term? (select : Select) (name : String) : Option Term :=
  match select.table.column? name with
  | some column => some (Term.ofColumn select.table column)
  | none =>
      match select.join with
      | some join => if join.label = name then some (ownerTerm join) else none
      | none => none

def term (select : Select) (name : String) : Result Term :=
  match select.term? name with
  | some term => pure term
  | none => throw (.unselectedColumn name)

def terms (select : Select) : List Term :=
  select.table.columns.map (Term.ofColumn select.table) ++ (select.join.map ownerTerm).toList

def termAt? (select : Select) (position : Int) : Option Term :=
  if position < 0 then none else select.terms[position.toNat]?

def restrict (select : Select) (condition : Condition) : Select :=
  { select with conditions := select.conditions ++ [condition] }

def sortBy (select : Select) (order : List OrderTerm) : Select :=
  { select with order := select.order ++ order }

end Select

/-- What an insert does on a collision. -/
inductive ConflictClause where
  | nothing
  /-- Keep the stored row if the target columns collide. -/
  | keepOn (target : List String)
  /-- Overwrite columns of the stored row if the target columns collide. -/
  | overwriteOn (target columns : List String)
  /-- Keep the stored row, whichever key collides. -/
  | keepAny
  /-- Overwrite columns of the stored row, whichever key collides. -/
  | overwriteAny (columns : List String)
deriving DecidableEq, Repr, Inhabited

structure Insert where
  table : Table
  rows : List Record
  conflict : ConflictClause := .nothing
  returning : Bool := false
deriving Repr, Inhabited

namespace Insert

def columns (insert : Insert) : List Column :=
  match insert.rows with
  | [] => []
  | row :: _ => insert.table.columns.filter fun column => row.has column.name

end Insert

structure Update where
  table : Table
  values : Record
  conditions : List Condition
deriving Repr, Inhabited

namespace Update

def columns (update : Update) : List Column :=
  update.table.columns.filter fun column => update.values.has column.name

end Update

structure Delete where
  table : Table
  conditions : List Condition
deriving Repr, Inhabited

inductive Statement where
  | select (query : Select)
  | insert (insertion : Insert)
  | update (change : Update)
  | delete (removal : Delete)
deriving Repr, Inhabited

end RecordGraph.Sql
