import RecordGraph.Filter
import RecordGraph.Http.Response
import RecordGraph.Schema.Registry
import RecordGraph.Text.Split
import RecordGraph.Value.Display
import RecordGraph.Value.Json

/-!
Contract: the reading of texts in requests as values of columns.

Owns: filters and orderings from query parameters, and keys from paths and bodies.
Does not own: the routes that take them.

A parameter `column=text` compares for equality, `column__operator=text` by an operator. What names
no column or no operator is ignored.
-/

namespace RecordGraph.Http

open RecordGraph.Sql RecordGraph.Text

/-- A query parameter: name and text. -/
abbrev Parameter := String × String

/-! ## Filters -/

def readTruth (text : String) : Option Bool :=
  let word := lowercase text
  if ["1", "true", "yes", "on"].contains word then some true
  else if ["0", "false", "no", "off"].contains word then some false
  else none

/-- The value that a text stands for in a column of a type, if it stands for one. -/
def readOperand (type : ColumnType) (text : String) : Option Value :=
  match type with
  | .boolean => (readTruth text).map Value.bool
  | .integer | .bigInteger => (readInt text).map Value.int
  | .float => (readFloat text).map Value.float
  | _ => some (.text text)

/-- Splits characters at the first double underscore; all of them come before none. -/
def splitOperator : List Char → List Char × List Char
  | '_' :: '_' :: rest => ([], rest)
  | c :: rest =>
      let (before, after) := splitOperator rest
      (c :: before, after)
  | [] => ([], [])

/-- The operators that parameters may name. None stands for equality. -/
def operator? : String → Option Comparison
  | "" | "eq" => some .equal
  | "ne" => some .unequal
  | "gt" => some .greater
  | "gte" => some .greaterEqual
  | "lt" => some .less
  | "lte" => some .lessEqual
  | "like" => some .like
  | "ilike" => some .ilike
  | _ => none

def isReserved (name : String) : Bool :=
  name == "eager" || name == "order"

/-- The operand of a comparison. Patterns are texts whatever the column holds. -/
def operand (entity : Entity) (column : Column) (comparison : Comparison) (text : String) :
    Except Failure Value :=
  match comparison with
  | .like | .ilike => pure (.text text)
  | _ =>
      match readOperand column.type text with
      | some value => pure value
      | none => throw (.rejected (.invalidValue text entity.name column.name))

/-- The filter of a parameter, if it is one of a filter. -/
def parameterFilter (entity : Entity) (parameter : Parameter) :
    Except Failure (Option Filter) :=
  if isReserved parameter.1 then pure none
  else
    let (name, word) := splitOperator parameter.1.toList
    match operator? (String.ofList word), entity.table.column? (String.ofList name) with
    | some comparison, some column => do
        let value ← operand entity column comparison parameter.2
        pure (some (.compare column.name (.compare comparison) value true))
    | _, _ => pure none

def parameterFilters (entity : Entity) (parameters : List Parameter) :
    Except Failure (List Filter) := do
  pure ((← parameters.mapM (parameterFilter entity)).filterMap id)

/-! ## Orderings -/

def orderColumns (text : String) : List String :=
  (splitMarks ',' text.toList).map fun column => String.ofList (trim isBlank column)

def last? (parameters : List Parameter) (name : String) : Option String :=
  parameters.reverse.lookup name

def orderFilter (parameters : List Parameter) : List Filter :=
  match last? parameters "order" with
  | none | some "" => []
  | some text => [Filter.orderBy (orderColumns text)]

def selectionFilter (entity : Entity) (parameters : List Parameter) : Except Failure Filter := do
  pure (Filter.chain ((← parameterFilters entity parameters) ++ orderFilter parameters))

/-! ## Keys -/

/-- An integer from a value: numbers lose their fraction, texts are numerals. -/
def integerKey : Value → Except Failure (Option Value)
  | .float (.finite negative significand exponent) =>
      pure ((Binary64.finite negative significand exponent).truncate?.map Value.int)
  | .float (.infinite _) => throw (.failed (.foreign .integerOverflow))
  | .text chars => pure ((readInt chars).map Value.int)
  | .int number => pure (some (.int number))
  | .bool flag => pure (some (.bool flag))
  | _ => pure none

/-- A double from a value: integers must lie in the range of doubles, texts are numerals. -/
def floatKey : Value → Except Failure (Option Value)
  | .float number => pure (some (.float number))
  | .text chars => pure ((readFloat chars).map Value.float)
  | .int number =>
      let nearest := Binary64.ofInt number
      if nearest.isFinite then pure (some (.float nearest))
      else throw (.failed (.foreign .integerOverflow))
  | .bool flag => pure (some (.float (Binary64.ofInt (if flag then 1 else 0))))
  | _ => pure none

/-- Sets the value of a key among entries. A key that equals one which is there keeps its place. -/
def setEntry (key value : Value) : List (Value × Value) → List (Value × Value)
  | [] => [(key, value)]
  | (held, old) :: rest =>
      if held.alike key then (held, value) :: rest else (held, old) :: setEntry key value rest

/-- The key and the value that an entry gives when it is walked through. -/
def entryOf? (entry : Value) : Option (Value × Value) :=
  match entry.elements? with
  | some [key, value] => if key.isKey then some (key, value) else none
  | _ => none

/-- The name that a key has in a document. -/
def documentName : Value → String
  | .text chars => chars
  | key => key.toJson

/-- An object from a value: what is none is walked through for entries. -/
def objectKey (value : Value) : Option Value :=
  match value with
  | .object fields => some (.object fields)
  | _ => do
      let entries ← (← value.elements?).mapM entryOf?
      let kept := entries.foldl (fun kept entry => setEntry entry.1 entry.2 kept) []
      pure (.object (kept.map fun entry => (documentName entry.1, entry.2)))

/-- A value as the key in a column; nothing if the column can have no such key. -/
def keyValue (column : Column) (value : Value) : Except Failure (Option Value) :=
  match column.type with
  | .integer | .bigInteger => integerKey value
  | .float => floatKey value
  | .string => pure (if value.isDisplayed then some (.text value.display) else none)
  | .boolean => pure (some (.bool value.truthy))
  | .date => pure none
  | .json => pure (if column.holdsObjects then objectKey value else some value)
  | .untyped | .sealed => pure (some value)

/-- A value as the primary key of an entity. A value that cannot be one is the key of no row. -/
def readKey (entity : Entity) (value : Value) : Except Failure Value := do
  match ← keyValue entity.key value with
  | some key => pure key
  | none => throw (.rejected (.missing entity.name))

end RecordGraph.Http
