import RecordGraph.Sql.Dialect
import RecordGraph.Text.Quoted
import RecordGraph.Text.Split
import RecordGraph.Schema.Table
import RecordGraph.Value.Record

/-!
Contract: parameters of statements, and the names of their placeholders.

Owns: `Parameter`, `Rendered`, the placeholders of each dialect, and the choice of names.
Does not own: which names a statement uses; `RecordGraph.Sql.Render` has them.

A name that a statement makes up for the parameter of a column is the column's stem and a number,
which counts the parameters with that stem. Names that grow too long are cut, and get a number of
their own.
-/

namespace RecordGraph.Sql

open RecordGraph.Text

/-- A parameter, by the name of its placeholder and the type that it is bound as. -/
structure Parameter where
  name : String
  type : ColumnType
  value : Value
deriving Repr, Inhabited

/-- Text with the parameters of its placeholders, in order. -/
structure Rendered where
  sql : String
  parameters : List Parameter := []
deriving Repr, Inhabited

namespace Rendered

def plain (sql : String) : Rendered := { sql }

def append (left right : Rendered) : Rendered :=
  ⟨left.sql ++ right.sql, left.parameters ++ right.parameters⟩

instance : Append Rendered := ⟨append⟩

def join (separator : String) (parts : List Rendered) : Rendered :=
  ⟨separator.intercalate (parts.map (·.sql)), parts.flatMap (·.parameters)⟩

/-- The values of the parameters by name. Of equal names the last value counts. -/
def byName (rendered : Rendered) : Record :=
  rendered.parameters.foldl (fun named parameter =>
    Record.set parameter.name parameter.value named) []

end Rendered

/-! ## Types -/

def castOf : ColumnType → String
  | .integer => "::INTEGER"
  | .bigInteger => "::BIGINT"
  | .string => "::VARCHAR"
  | .json => "::JSON"
  | .date => "::DATE"
  | _ => ""

/-- The least magnitude of an integer that needs more than 32 bits. -/
def bigBound : Nat := 0x80000000

/-- The type of a value on its own, if it has one. -/
def valueType? : Value → Option ColumnType
  | .int number => some (if number.natAbs < bigBound then .integer else .bigInteger)
  | .text _ => some .string
  | .float _ => some .float
  | .bool _ => some .boolean
  | _ => none

/-- The type of a value that is compared with a column. Null, lists and objects have that of the
column, and so has every value if the column is sealed. -/
def comparedType (column : ColumnType) (value : Value) : ColumnType :=
  match column, valueType? value with
  | .sealed, _ => .sealed
  | .integer, some .bigInteger => .integer
  | _, some type => type
  | _, none => column

/-! ## Placeholders -/

/-- What a character of a name becomes in a placeholder. -/
def placeholderChar (c : Char) : Char :=
  if c == '%' then 'P'
  else if c == '(' then 'A'
  else if c == ')' then 'Z'
  else if c == ':' then 'C'
  else if ['.', '[', ']', ' '].contains c then '_'
  else c

def placeholderName (name : String) : String :=
  String.ofList (name.toList.map placeholderChar)

namespace Dialect

def placeholder (dialect : Dialect) (name : String) (type : ColumnType) : String :=
  match dialect with
  | .sqlite => "?"
  | .mysql | .mariadb => "%s"
  | .postgresql => "%(" ++ placeholderName name ++ ")s" ++ castOf type
  | .mssql => ":" ++ placeholderName name

def parameter (dialect : Dialect) (name : String) (type : ColumnType) (value : Value) :
    Rendered :=
  ⟨dialect.placeholder name type, [⟨placeholderName name, type, value⟩]⟩

end Dialect

/-! ## Names -/

/-- Characters that a stem does not hold. -/
def isStemBreak (c : Char) : Bool :=
  ['%', '(', ')', ' ', '$', ':', '.', '[', ']'].contains c

/-- The stem of the parameter names of a column: its name, with an underscore for each run of
characters that a stem does not hold, and without outer underscores. -/
def parameterStem (name : String) : String :=
  String.ofList (trim (· == '_') (joinRuns isStemBreak '_' false name.toList))

/-- The least number of hexadecimal digits, at most `count`, that write a number. -/
def shortHex (count number : Nat) : List Char :=
  match (hexDigits count number).dropWhile (· == '0') with
  | [] => ['0']
  | digits => digits

/-- Names for parameters with given stems, in order, as long as the dialect lets them be; `seen`
are the stems of earlier parameters, and `cut` of their names were cut. -/
def parameterNames (dialect : Dialect) (seen : List String) (cut : Nat) :
    List (Option String) → List String
  | [] => []
  | none :: rest => "" :: parameterNames dialect seen cut rest
  | some stem :: rest =>
      let name := stem ++ "_" ++ toString (seen.count stem + 1)
      let limit := dialect.nameLimit - 6
      if limit < name.length then
        String.ofList (name.toList.take limit ++ '_' :: shortHex 8 (cut + 1))
          :: parameterNames dialect (stem :: seen) (cut + 1) rest
      else name :: parameterNames dialect (stem :: seen) cut rest

/-- A name, with a number after it if the name is taken. -/
def freeName (taken : List String) (name : String) : String :=
  if taken.contains name then
    let numbered := (List.range (taken.length + 1)).map fun n =>
      name ++ "__" ++ toString (n + 1)
    (numbered.find? (!taken.contains ·)).getD name
  else name

end RecordGraph.Sql
