import RecordGraph.Sql.Identifier
import RecordGraph.Sql.Statement

/-!
Contract: the text of statements in each dialect.

Owns: the layout of statements, the names of their placeholders, and the statements that have no
text.
Does not own: quoting of identifiers, the form of placeholders, and the driver's form of parameter
values.

Placeholders are named by column: in a condition by the column's stem, and `name_k` for the members
of a list; in an insertion the column, or `column_m` and the row for several rows; in an assignment
the column. A column that is selected under a label has no stem of its own.
-/

namespace RecordGraph.Sql

/-! ## Conditions -/

def Comparison.symbol : Comparison → String
  | .equal => " = "
  | .unequal => " != "
  | .greater => " > "
  | .greaterEqual => " >= "
  | .less => " < "
  | .lessEqual => " <= "
  | .like => " LIKE "
  | .ilike => " ILIKE "

def Dialect.flag (dialect : Dialect) (flag : Bool) : String :=
  match dialect with
  | .sqlite | .mssql => if flag then "1" else "0"
  | _ => if flag then "true" else "false"

/-- The stem of the parameter names of a compared column. -/
def Term.stem (term : Term) : String :=
  if term.label.isSome then "param" else parameterStem term.column.column

/-- The stem of a condition's parameter names, if it has parameters. -/
def Condition.stem? : Condition → Option String
  | .compare _ term _ | .among term _ | .notAmong term _ => some term.stem
  | _ => none

/-! ### Members -/

def memberType (column : ColumnType) : List Value → ColumnType
  | [] => column
  | first :: _ => comparedType column first

/-- Whether members are compared as rows, which lists are where the column has no type. -/
def areRows (column : ColumnType) : List Value → Bool
  | .list _ :: _ => column = .untyped
  | _ => false

/-- Names for values, `name_k` in order, none of which is taken. -/
def memberNames (taken : List String) (name : String) (position : Nat) :
    List Value → List (String × Value)
  | [] => []
  | value :: rest =>
      (freeName taken (name ++ "_" ++ toString position), value)
        :: memberNames taken name (position + 1) rest

/-- Names for the values of rows, `name_i_k` in order. -/
def rowNames (taken : List String) (name : String) (position : Nat) :
    List (List Value) → List (String × Value)
  | [] => []
  | row :: rest =>
      memberNames taken (name ++ "_" ++ toString position) 1 row
        ++ rowNames taken name (position + 1) rest

/-- The values of members that are rows. -/
def rowsOf (members : List Value) : List (List Value) :=
  members.map fun member => member.elements?.getD []

/-- The places of a row's values among those of all rows, if all rows were as long as this one. -/
def rowPlaces (position : Nat) (row : List Value) : List Nat :=
  (List.range row.length).map (position * row.length + ·)

def placedRows (position : Nat) : List (List Value) → List (List Nat)
  | [] => []
  | row :: rest => rowPlaces position row :: placedRows (position + 1) rest

/-- Why members that are rows have no text: one of them is no collection, or they are not equally
long. -/
def rowsFault? (members : List Value) : Option Foreign :=
  if members.any fun member => member.elements?.isNone then some .notIterable
  else
    let rows := rowsOf members
    let count := rows.flatten.length
    if (placedRows 0 rows).any fun places => places.any (count ≤ ·) then some .missingPosition
    else none

/-- Members that are rows, each in brackets. -/
def renderRowMembers (dialect : Dialect) (taken : List String) (name : String)
    (members : List Value) : Rendered :=
  let rows := rowsOf members
  let named := rowNames taken name 1 rows
  let placeholder (place : Nat) : String :=
    dialect.placeholder ((named[place]?).getD ("", .null)).1 .untyped
  let texts := (placedRows 0 rows).map fun places =>
    "(" ++ ", ".intercalate (places.map placeholder) ++ ")"
  let word :=
    match dialect with
    | .sqlite => "VALUES "
    | _ => ""
  ⟨word ++ ", ".intercalate texts,
    named.map fun member => ⟨placeholderName member.1, .untyped, member.2⟩⟩

def renderMembers (dialect : Dialect) (taken : List String) (name : String) (column : ColumnType)
    (members : List Value) : Rendered :=
  let content :=
    if areRows column members then renderRowMembers dialect taken name members
    else
      .join ", " ((memberNames taken name 1 members).map fun member =>
        dialect.parameter member.1 (memberType column members) member.2)
  .plain "(" ++ content ++ .plain ")"

/-- A query without rows, the empty list of the dialect that has no other. -/
def emptyMembers : String := "(SELECT 1 FROM (SELECT 1) WHERE 1!=1)"

def renderAmong (dialect : Dialect) (taken : List String) (column name : String)
    (type : ColumnType) : List Value → Rendered
  | [] =>
      match dialect with
      | .sqlite => .plain (column ++ " IN " ++ emptyMembers)
      | _ => .plain (column ++ " IN (NULL) AND (1 != 1)")
  | values => .plain (column ++ " IN ") ++ renderMembers dialect taken name type values

def renderNotAmong (dialect : Dialect) (taken : List String) (column name : String)
    (type : ColumnType) : List Value → Rendered
  | [] =>
      match dialect with
      | .sqlite => .plain ("(" ++ column ++ " NOT IN " ++ emptyMembers ++ ")")
      | _ => .plain ("(" ++ column ++ " NOT IN (NULL) OR (1 = 1))")
  | values =>
      .plain ("(" ++ column ++ " NOT IN ") ++ renderMembers dialect taken name type values
        ++ .plain ")"

/-! ### Texts -/

/-- A condition whose parameters take the given name, and its members names that are free. -/
def Condition.render (dialect : Dialect) (taken : List String) (name : String) :
    Condition → Rendered
  | .isNull term => .plain (dialect.column term.column ++ " IS NULL")
  | .isNotNull term => .plain (dialect.column term.column ++ " IS NOT NULL")
  | .isFlag term flag => .plain (dialect.column term.column ++ " = " ++ dialect.flag flag)
  | .isNotFlag term flag => .plain (dialect.column term.column ++ " != " ++ dialect.flag flag)
  | .compare comparison term value =>
      let column := dialect.column term.column
      let parameter := dialect.parameter name (comparedType term.type value) value
      if comparison = .ilike && dialect ≠ .postgresql then
        .plain ("lower(" ++ column ++ ") LIKE lower(") ++ parameter ++ .plain ")"
      else .plain (column ++ comparison.symbol) ++ parameter
  | .among term values =>
      renderAmong dialect taken (dialect.column term.column) name term.type values
  | .notAmong term values =>
      renderNotAmong dialect taken (dialect.column term.column) name term.type values

/-- Conditions with the names of their parameters, in order. -/
def renderNamed (dialect : Dialect) (taken : List String) :
    List (Condition × String) → List Rendered
  | [] => []
  | (condition, name) :: rest =>
      let rendered := condition.render dialect taken name
      rendered :: renderNamed dialect (rendered.parameters.map (·.name) ++ taken) rest

def conditionNames (dialect : Dialect) (conditions : List Condition) : List String :=
  parameterNames dialect [] 0 (conditions.map (·.stem?))

def renderWhere (dialect : Dialect) (conditions : List Condition) : Rendered :=
  if conditions.isEmpty then .plain ""
  else
    let names := conditionNames dialect conditions
    .plain " WHERE " ++ .join " AND " (renderNamed dialect names (conditions.zip names))

/-! ## Statements -/

/-- A label stands for itself in an ordering. -/
def OrderTerm.render (dialect : Dialect) (order : OrderTerm) : String :=
  let name :=
    match order.term.label with
    | some label => dialect.identifier label
    | none => dialect.column order.term.column
  name ++ (if order.descending then " DESC" else " ASC")

def renderOrder (dialect : Dialect) (order : List OrderTerm) : String :=
  if order.isEmpty then ""
  else " ORDER BY " ++ ", ".intercalate (order.map (·.render dialect))

def Dialect.qualifiedColumns (dialect : Dialect) (table : Table) : List String :=
  table.columnNames.map fun name => dialect.column ⟨table.name, name⟩

def Select.render (dialect : Dialect) (select : Select) : Rendered :=
  let columns := dialect.qualifiedColumns select.table
  let source := dialect.identifier select.table.name
  let (columns, source) :=
    match select.join with
    | none => (columns, source)
    | some join =>
        let word :=
          match dialect with
          | .mysql | .mariadb => " INNER JOIN "
          | _ => " JOIN "
        (columns ++ [dialect.column ⟨join.through.name, join.owner.name⟩ ++ " AS "
            ++ dialect.identifier join.label],
          source ++ word ++ dialect.identifier join.through.name ++ " ON "
            ++ dialect.column ⟨join.through.name, join.link⟩ ++ " = "
            ++ dialect.column ⟨select.table.name, join.key⟩)
  .plain ("SELECT " ++ ", ".intercalate columns ++ " FROM " ++ source)
    ++ renderWhere dialect select.conditions
    ++ .plain (renderOrder dialect select.order)

namespace Insert

/-- The names of a row's placeholders: the columns, with the row's number among several. -/
def parameterName (count position : Nat) (column : String) : String :=
  if count ≤ 1 then column else column ++ "_m" ++ toString position

def renderRow (dialect : Dialect) (insert : Insert) (position : Nat) (row : Record) : Rendered :=
  .plain "(" ++ .join ", " (insert.columns.map fun column =>
    dialect.parameter (parameterName insert.rows.length position column.name) column.type
      (row.getD column.name)) ++ .plain ")"

def renderRows (dialect : Dialect) (insert : Insert) (position : Nat) :
    List Record → List Rendered
  | [] => []
  | row :: rest =>
      insert.renderRow dialect position row :: insert.renderRows dialect (position + 1) rest

/-- The assignments of columns, in table order, from the row that was to be inserted. -/
def assignments (dialect : Dialect) (insert : Insert) (columns : List String)
    (source : String → String) : String :=
  ", ".intercalate ((insert.table.columnNames.filter columns.contains).map fun name =>
    dialect.identifier name ++ " = " ++ source (dialect.identifier name))

def renderConflict (dialect : Dialect) (insert : Insert) : String :=
  let targetText (target : List String) :=
    " ON CONFLICT (" ++ ", ".intercalate (target.map dialect.identifier) ++ ")"
  match insert.conflict with
  | .nothing | .keepAny => ""
  | .keepOn target => targetText target ++ " DO NOTHING"
  | .overwriteOn target columns =>
      targetText target ++ " DO UPDATE SET "
        ++ insert.assignments dialect columns fun name => "excluded." ++ name
  | .overwriteAny columns =>
      " ON DUPLICATE KEY UPDATE "
        ++ insert.assignments dialect columns fun name => "VALUES(" ++ name ++ ")"

/-- The names of the columns that the statement hands back. Where nothing is asked for, two
dialects still fetch a key that the database numbers. -/
def returned (dialect : Dialect) (insert : Insert) : List String :=
  if insert.returning then insert.table.columnNames
  else
    match dialect, insert.rows, insert.table.generatedKey? with
    | .postgresql, [row], some key | .mssql, [row], some key =>
        if row.has key.name then [] else [key.name]
    | _, _, _ => []

def renderOutput (dialect : Dialect) (insert : Insert) : String :=
  match dialect, insert.returned dialect with
  | .mssql, first :: rest =>
      " OUTPUT " ++ ", ".intercalate ((first :: rest).map fun name =>
        "inserted." ++ dialect.identifier name)
  | _, _ => ""

def renderReturning (dialect : Dialect) (insert : Insert) : String :=
  match dialect, insert.returned dialect with
  | _, [] | .mssql, _ => ""
  | .sqlite, names => " RETURNING " ++ ", ".intercalate (names.map dialect.identifier)
  | _, names =>
      " RETURNING " ++ ", ".intercalate (names.map fun name =>
        dialect.column ⟨insert.table.name, name⟩)

def renderValues (dialect : Dialect) (insert : Insert) : Rendered :=
  match insert.columns, dialect with
  | [], .mysql | [], .mariadb =>
      .plain (" ()" ++ renderOutput dialect insert ++ " VALUES ")
        ++ .join ", " (insert.renderRows dialect 0 insert.rows)
  | [], _ => .plain (renderOutput dialect insert ++ " DEFAULT VALUES")
  | columns, _ =>
      .plain (" (" ++ ", ".intercalate (columns.map fun column => dialect.identifier column.name)
          ++ ")" ++ renderOutput dialect insert ++ " VALUES ")
        ++ .join ", " (insert.renderRows dialect 0 insert.rows)

def render (dialect : Dialect) (insert : Insert) : Rendered :=
  let word := if insert.conflict = .keepAny then "INSERT IGNORE INTO " else "INSERT INTO "
  .plain (word ++ dialect.identifier insert.table.name)
    ++ insert.renderValues dialect
    ++ .plain (insert.renderConflict dialect ++ insert.renderReturning dialect)

end Insert

def Update.render (dialect : Dialect) (update : Update) : Rendered :=
  .plain ("UPDATE " ++ dialect.identifier update.table.name ++ " SET ")
    ++ .join ", " (update.columns.map fun column =>
      .plain (dialect.identifier column.name ++ "=")
        ++ dialect.parameter column.name column.type (update.values.getD column.name))
    ++ renderWhere dialect update.conditions

def Delete.render (dialect : Dialect) (removal : Delete) : Rendered :=
  .plain ("DELETE FROM " ++ dialect.identifier removal.table.name)
    ++ renderWhere dialect removal.conditions

/-! ## Statements without a text -/

def Condition.fault? : Condition → Option Foreign
  | .among term values | .notAmong term values =>
      if areRows term.type values then rowsFault? values else none
  | _ => none

/-- Why an update has no text: a condition's parameter has the name of an assigned column. -/
def Update.fault? (dialect : Dialect) (update : Update) : Option Foreign :=
  let names := conditionNames dialect update.conditions
  if update.columns.any fun column => names.contains column.name then some .unspeakable
  else update.conditions.findSome? Condition.fault?

def Statement.fault? (dialect : Dialect) : Statement → Option Foreign
  | .select query => query.conditions.findSome? Condition.fault?
  | .insert _ => none
  | .update change => change.fault? dialect
  | .delete removal => removal.conditions.findSome? Condition.fault?

def Statement.render (dialect : Dialect) : Statement → Rendered
  | .select query => query.render dialect
  | .insert insertion => insertion.render dialect
  | .update change => change.render dialect
  | .delete removal => removal.render dialect

def Statement.text (dialect : Dialect) (statement : Statement) : Result Rendered :=
  match statement.fault? dialect with
  | some fault => throw (.foreign fault)
  | none => pure (statement.render dialect)

end RecordGraph.Sql
