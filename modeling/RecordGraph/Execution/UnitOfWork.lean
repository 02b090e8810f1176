import RecordGraph.Execution.Executor

/-!
Contract: transactions around the statements of one operation.

Owns: `SessionControl`, `UnitOfWork`, entering and leaving one, and `Scope`.
Does not own: what a session does when it begins, commits, rolls back or closes.

A unit of work either borrows the caller's session or creates one and closes it afterwards. Leaving
it without an error commits; leaving it with one rolls back. A failed commit is followed by an
attempt to roll back.
-/

namespace RecordGraph

/-- The transaction control of a session in a world. -/
structure SessionControl (σ : Type) where
  /-- Creates a session and tells whether there is one now. -/
  create : Action σ Bool
  inTransaction : σ → Bool
  begin : Action σ Unit
  commit : Action σ Unit
  rollback : Action σ Unit
  close : Action σ Unit

/-- A unit of work in a world. -/
structure UnitState (σ : Type) where
  world : σ
  holdsSession : Bool
deriving Repr, Inhabited

/-- Where a unit of work takes its session from. -/
inductive SessionSource where
  | borrowed
  | created
deriving DecidableEq, Repr, Inhabited

/-- A unit of work takes its session from exactly one place. -/
def SessionSource.choose (hasSession hasFactory : Bool) : Result SessionSource :=
  match hasSession, hasFactory with
  | true, true => throw .twoSessionSources
  | false, false => throw .noSessionSource
  | true, false => pure .borrowed
  | false, true => pure .created

namespace UnitOfWork

variable {σ : Type}

/-- An action of the world, in a unit of work. -/
def lift {α : Type} (action : Action σ α) : Action (UnitState σ) α :=
  fun state =>
    let (result, world) := action.run.run state.world
    (result, { state with world })

def requireSession : Action (UnitState σ) Unit := do
  if (← get).holdsSession then pure () else throw .sessionMissing

/-- The state before a unit is entered. -/
def start (source : SessionSource) (world : σ) : UnitState σ :=
  { world, holdsSession := source = .borrowed }

/-- Runs an action and turns its ordinary failures into others. -/
def recast {α : Type} (action : Action (UnitState σ) α) (handle : Error → Action (UnitState σ) α) :
    Action (UnitState σ) α :=
  tryCatch action fun error => if error.isOrdinary then handle error else throw error

def openSession (control : SessionControl σ) (source : SessionSource) :
    Action (UnitState σ) Unit := do
  if source = .created then
    let present ← lift control.create
    modify fun state => { state with holdsSession := present }
  requireSession
  if !control.inTransaction (← get).world then lift control.begin

def enter (control : SessionControl σ) (source : SessionSource) : Action (UnitState σ) Unit :=
  recast (openSession control source) fun error =>
    match error.kind with
    | .unitOfWork | .sessionManagement => throw error
    | _ => throw (.startFailed error.message)

def rollback (control : SessionControl σ) : Action (UnitState σ) Unit :=
  recast (do
    requireSession
    if control.inTransaction (← get).world then lift control.rollback)
    fun error => throw (.rollbackFailed error.message)

def commit (control : SessionControl σ) : Action (UnitState σ) Unit :=
  recast (do
    requireSession
    lift control.commit)
    fun error => do
      recast (rollback control) fun _ => pure ()
      throw (.commitFailed error.message)

/-- Closes a created session and lets go of it, whether or not closing fails. -/
def release (control : SessionControl σ) (source : SessionSource) :
    Action (UnitState σ) Unit := do
  if source = .created && (← get).holdsSession then
    let closing : Action (UnitState σ) Unit :=
      recast (lift control.close) fun error => throw (.closeFailed error.message)
    let outcome ← (ExceptT.lift closing.run : Action (UnitState σ) (Except Error Unit))
    modify fun state => { state with holdsSession := false }
    MonadExcept.ofExcept outcome

/-- Ends the transaction by the outcome of the body, then releases the session. A failure to
release it takes the place of an earlier one. -/
def leave (control : SessionControl σ) (source : SessionSource) (failure : Option Error) :
    Action (UnitState σ) Unit := do
  let ending := if failure.isNone then commit control else rollback control
  let outcome ← (ExceptT.lift ending.run : Action (UnitState σ) (Except Error Unit))
  release control source
  MonadExcept.ofExcept outcome

end UnitOfWork

/-- The transaction scope of an operation. -/
structure Scope (σ : Type) where
  enter : Action σ Unit
  leave : Option Error → Action σ Unit

namespace Scope

variable {σ : Type}

/-- The scope of a caller that has entered its unit of work itself, and will leave it. -/
def entered : Scope σ where
  enter := pure ()
  leave _ := pure ()

/-- Runs a body in a scope. A failure to leave the scope takes the place of the body's. -/
def within {α : Type} (scope : Scope σ) (body : Action σ α) : Action σ α := do
  scope.enter
  let outcome ← (ExceptT.lift body.run : Action σ (Except Error α))
  match outcome with
  | .ok result =>
      scope.leave none
      pure result
  | .error error =>
      scope.leave (some error)
      throw error

/-- The scope of a fresh unit of work with a session of its own. The body runs in the unit's
world. -/
def ofControl (control : SessionControl σ) : Scope (UnitState σ) where
  enter := do
    modify fun state => UnitOfWork.start .created state.world
    UnitOfWork.enter control .created
  leave := UnitOfWork.leave control .created

end Scope

end RecordGraph
