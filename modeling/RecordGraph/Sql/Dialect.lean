/-!
Contract: the dialects that statements are written for.

Owns: `Dialect`, its name, and what a dialect can do.
Does not own: the words that a dialect keeps for itself; `RecordGraph.Sql.Reserved` has them.
-/

namespace RecordGraph.Sql

inductive Dialect where
  | sqlite
  | postgresql
  | mysql
  | mariadb
  | mssql
deriving DecidableEq, Repr, Inhabited

namespace Dialect

def name : Dialect → String
  | .sqlite => "sqlite"
  | .postgresql => "postgresql"
  | .mysql => "mysql"
  | .mariadb => "mariadb"
  | .mssql => "mssql"

def ofName? (name : String) : Option Dialect :=
  [sqlite, postgresql, mysql, mariadb, mssql].find? (·.name == name)

def insertReturning : Dialect → Bool
  | .mysql => false
  | _ => true

/-- Whether placeholders are counted instead of named. -/
def positional : Dialect → Bool
  | .sqlite | .mysql | .mariadb => true
  | .postgresql | .mssql => false

/-- Whether placeholders begin with a percent sign, so that any other one is written twice. -/
def percentMarked : Dialect → Bool
  | .postgresql | .mysql | .mariadb => true
  | .sqlite | .mssql => false

def nameLimit : Dialect → Nat
  | .sqlite => 9999
  | .postgresql => 63
  | .mysql | .mariadb => 255
  | .mssql => 128

end Dialect

end RecordGraph.Sql
