import RecordGraph.Schema.Table
import RecordGraph.Sql.Reserved

/-!
Contract: the text of identifiers in each dialect.

Owns: which identifiers can stand without quotes, and quoting.
Does not own: the reserved words.
-/

namespace RecordGraph.Sql

/-- Letters in lower case, digits, the underscore and the dollar sign. The dotless i and the long s
count as letters, for their upper-case forms are letters of ASCII. -/
def isPlainIdentifierChar (c : Char) : Bool :=
  c.isLower || c.isDigit || c == '_' || c == '$' || c.toNat = 0x131 || c.toNat = 0x17F

def dropLineBreak (chars : List Char) : List Char :=
  if chars.getLast? = some '\n' then chars.dropLast else chars

/-- Whether an identifier has the form of one that needs no quotes. -/
def isPlainIdentifier (name : String) : Bool :=
  match dropLineBreak name.toList with
  | [] => false
  | first :: rest =>
      isPlainIdentifierChar first && !first.isDigit && first != '$'
        && rest.all isPlainIdentifierChar

namespace Dialect

def marks : Dialect → Char × Char
  | .sqlite | .postgresql => ('"', '"')
  | .mysql | .mariadb => (Char.ofNat 96, Char.ofNat 96)
  | .mssql => ('[', ']')

/-- A character inside quotes. The closing quote is written twice, and so is the percent sign where
it marks placeholders. -/
def quotedChar (dialect : Dialect) (c : Char) : List Char :=
  if c == dialect.marks.2 || (c == '%' && dialect.percentMarked) then [c, c] else [c]

def identifier (dialect : Dialect) (name : String) : String :=
  if isPlainIdentifier name && !dialect.isReserved name then name
  else
    String.ofList (dialect.marks.1 :: name.toList.flatMap dialect.quotedChar
      ++ [dialect.marks.2])

def column (dialect : Dialect) (ref : ColumnRef) : String :=
  dialect.identifier ref.table ++ "." ++ dialect.identifier ref.column

end Dialect

end RecordGraph.Sql
