import RecordGraph.Execution.UnitOfWork
import RecordGraph.Sql.Render

/-!
Contract: executors and sessions that follow a script instead of a database.

Owns: scripted answers, the log of what was asked, and scripted transaction control.
Does not own: the meaning of statements.

Each statement is logged and then takes the next answer of the script; after the last one, answers
are empty. A statement that has no text fails before it is logged.
-/

namespace RecordGraph

open RecordGraph.Sql

/-! ## Scripted executors -/

structure ScriptedAnswer where
  rows : List Record := []
  count : Int := 0
  error : Option Error := none
deriving Repr, Inhabited

inductive ScriptedCall where
  | begin
  | commit
  | rollback
  | statement (name : String) (query : Rendered)
deriving Repr, Inhabited

structure Script where
  answers : List ScriptedAnswer
  log : List ScriptedCall := []
deriving Repr, Inhabited

namespace Script

def write (call : ScriptedCall) : Action Script Unit :=
  modify fun script => { script with log := script.log ++ [call] }

/-- Logs a statement and takes the next answer. -/
def answer (dialect : Dialect) (name : String) (statement : Statement) :
    Action Script ScriptedAnswer := do
  write (.statement name (← MonadExcept.ofExcept (statement.text dialect)))
  let script ← get
  let next := script.answers.headD {}
  set { script with answers := script.answers.tail }
  match next.error with
  | some error => throw error
  | none => pure next

def executor (dialect : Dialect) : Executor Script where
  dialect
  fetchAll query := do pure (← answer dialect "fetch_all" (.select query)).rows
  fetchOne query := do pure (← answer dialect "fetch_one" (.select query)).rows.head?
  change statement := do pure (← answer dialect "execute" statement).count
  runInsert compiled := do
    pure (← answer dialect "run_insert" (.insert compiled.statement)).rows

def scope : Scope Script where
  enter := write .begin
  leave failure := write (if failure.isNone then .commit else .rollback)

end Script

/-! ## Scripted sessions -/

/-- A session whose statements take scripted courses. -/
structure SessionScript where
  replies : List Reply
  issued : List Rendered := []
  cancelled : Bool := false
deriving Repr, Inhabited

namespace SessionScript

def run (dialect : Dialect) (statement : Statement) (script : SessionScript) :
    Reply × SessionScript :=
  match statement.text dialect with
  | .error fault => (.refused (.other fault), script)
  | .ok rendered =>
      let reply := script.replies.headD (.done {})
      let cancelled :=
        match reply with
        | .overtaken => true
        | _ => script.cancelled
      (reply, {
        replies := script.replies.tail, issued := script.issued ++ [rendered], cancelled })

def session (dialect : Dialect) : Session SessionScript where
  dialect
  run := run dialect

end SessionScript

/-! ## Scripted transaction control -/

/-- A session that records how it is controlled, and fails where it is told to. -/
structure ControlScript where
  active : Bool := false
  failures : List (String × String) := []
  /-- Whether the factory gives no session. -/
  emptyFactory : Bool := false
  log : List String := []
deriving Repr, Inhabited

namespace ControlScript

/-- Records a step, and fails or takes its effect on the transaction. -/
def step (name : String) (active : Bool) : Action ControlScript Unit := do
  modify fun script => { script with log := script.log ++ [name] }
  match (← get).failures.lookup name with
  | some message => throw (.foreign (.failure message))
  | none => modify fun script => { script with active }

def control : SessionControl ControlScript where
  create := do
    step "factory" (← get).active
    pure !(← get).emptyFactory
  inTransaction script := script.active
  begin := step "begin" true
  commit := step "commit" false
  rollback := step "rollback" false
  close := step "close" false

end ControlScript

end RecordGraph
