import RecordGraph.Proofs.Execution.Action
import RecordGraph.Proofs.Result
import RecordGraph.Proofs.Store.Transaction

/-!
Contract: what the database in memory answers, and what a unit of work leaves of it.

Owns: `Database.answer`, the run of a statement in its terms, and the outcome of a body in a unit
of work of its own.
Does not own: the statements that bodies issue.
-/

namespace RecordGraph

open RecordGraph.Sql

namespace Database

/-! ## Statements -/

/-- What a statement with bound values answers and does to a store, or how it is refused. -/
def answerWith (statement : Statement) (values : List Value) (store : Store) :
    Except Refusal (Store × Cursor) :=
  match prepare statement with
  | .error failure => .error (refusalOf failure)
  | .ok () =>
      match firstRefusal 1 values with
      | some refusal => .error refusal
      | none =>
          match statement.evaluate store with
          | .error failure => .error (refusalOf failure)
          | .ok (store, cursor) =>
              if isAmbiguous statement cursor then .error (.other (.foreign .ambiguousColumn))
              else .ok (store, cursor)

/-- What a statement answers and does to a store, or how it is refused. -/
def answer (statement : Statement) (store : Store) : Except Refusal (Store × Cursor) :=
  match statement.text .sqlite with
  | .error fault => .error (.other fault)
  | .ok rendered =>
      match boundValues rendered.parameters with
      | none => .error (.other (.foreign .invalidBinding))
      | some values => answerWith statement values store

/-- A reply and the store after it, as a statement is answered. -/
def Answers (outcome : Except Refusal (Store × Cursor)) (before : Store) (reply : Reply)
    (after : Store) : Prop :=
  match outcome with
  | .ok (store, cursor) => reply = .done cursor ∧ after = store
  | .error refusal => reply = .refused refusal ∧ after = before

theorem execute_answers (statement : Statement) (values : List Value) (database : Database) :
    Answers (answerWith statement values database.store) database.store
      (execute statement values database).1 (execute statement values database).2.store := by
  unfold execute answerWith
  cases prepare statement with
  | error failure => exact ⟨rfl, rfl⟩
  | ok _ =>
      cases firstRefusal 1 values with
      | some refusal => exact ⟨rfl, rfl⟩
      | none =>
          cases statement.evaluate database.store with
          | error failure => exact ⟨rfl, rfl⟩
          | ok outcome =>
              dsimp only
              by_cases ambiguous : isAmbiguous statement outcome.2 = true
              · rw [if_pos ambiguous, if_pos ambiguous]
                exact ⟨rfl, rfl⟩
              · rw [if_neg ambiguous, if_neg ambiguous]
                exact ⟨rfl, rfl⟩

/-- A statement is run as it is answered. -/
theorem run_answers (statement : Statement) (database : Database) :
    Answers (answer statement database.store) database.store (run statement database).1
      (run statement database).2.store := by
  unfold run answer
  dsimp only
  cases statement.text .sqlite with
  | error fault => exact ⟨rfl, rfl⟩
  | ok rendered =>
      dsimp only
      cases boundValues rendered.parameters with
      | none => exact ⟨rfl, rfl⟩
      | some values =>
          exact execute_answers statement values
            (database.start.write (.statement rendered.sql values))

theorem answerWith_eq_ok {statement : Statement} {values : List Value} {store store' : Store}
    {cursor : Cursor} (answered : answerWith statement values store = .ok (store', cursor)) :
    firstRefusal 1 values = none ∧ prepare statement = .ok () ∧
      statement.evaluate store = .ok (store', cursor) ∧ isAmbiguous statement cursor = false := by
  unfold answerWith at answered
  cases prepared : prepare statement with
  | error failure =>
      rw [prepared] at answered
      cases answered
  | ok _ =>
      rw [prepared] at answered
      cases free : firstRefusal 1 values with
      | some refusal =>
          rw [free] at answered
          cases answered
      | none =>
          rw [free] at answered
          cases evaluated : statement.evaluate store with
          | error failure =>
              rw [evaluated] at answered
              cases answered
          | ok outcome =>
              rw [evaluated] at answered
              dsimp only at answered
              by_cases ambiguous : isAmbiguous statement outcome.2 = true
              · rw [if_pos ambiguous] at answered
                cases answered
              · rw [if_neg ambiguous] at answered
                cases answered
                exact ⟨rfl, rfl, rfl, by simpa using ambiguous⟩

/-- Whether the values of a statement's parameters can be bound. -/
def Accepts (statement : Statement) : Prop :=
  ∃ rendered values, statement.text .sqlite = .ok rendered ∧
    boundValues rendered.parameters = some values ∧ firstRefusal 1 values = none

theorem answer_eq_ok_iff {statement : Statement} {store store' : Store} {cursor : Cursor} :
    answer statement store = .ok (store', cursor) ↔
      Accepts statement ∧ prepare statement = .ok () ∧
        statement.evaluate store = .ok (store', cursor) ∧
          isAmbiguous statement cursor = false := by
  constructor
  · intro answered
    unfold answer at answered
    cases isText : statement.text .sqlite with
    | error fault =>
        rw [isText] at answered
        cases answered
    | ok rendered =>
        rw [isText] at answered
        dsimp only at answered
        cases bound : boundValues rendered.parameters with
        | none =>
            rw [bound] at answered
            cases answered
        | some values =>
            rw [bound] at answered
            rcases answerWith_eq_ok answered with ⟨free, prepared⟩
            exact ⟨⟨rendered, values, isText, bound, free⟩, prepared⟩
  · rintro ⟨⟨rendered, values, isText, bound, free⟩, prepared, evaluated, unambiguous⟩
    unfold answer answerWith
    rw [isText, prepared]
    dsimp only
    rw [bound]
    dsimp only
    rw [free, evaluated]
    dsimp only
    rw [unambiguous, if_neg Bool.false_ne_true]

/-! ## Units of work -/

section Unit

variable {α : Type} {saved : List StoredTable} {state : UnitState Database} {statement : Statement}

/-- Whether a unit of work is in a transaction that returns to given tables. -/
structure Inside (saved : List StoredTable) (state : UnitState Database) : Prop where
  holds : state.holdsSession = true
  transaction : ∃ transaction, state.world.transaction = some transaction ∧
    transaction.saved = saved

theorem inside_begin (database : Database) : Inside database.store.tables ⟨database.begin, true⟩ :=
  ⟨rfl, _, rfl, rfl⟩

theorem issue_apply (statement : Statement) (state : UnitState Database) :
    Executor.issue unitSession none statement state =
      (Executor.outcomeOf (run statement state.world).1,
        { state with world := (run statement state.world).2 }) :=
  rfl

theorem Inside.run (inside : Inside saved state) (statement : Statement) :
    Inside saved { state with world := (Database.run statement state.world).2 } := by
  rcases inside.transaction with ⟨transaction, isOpen, isSaved⟩
  refine ⟨inside.holds, { transaction with started := true }, ?_, isSaved⟩
  rw [run_transaction, start, isOpen]
  rfl

/-- Issuing a statement that is answered. -/
theorem issue_of_ok (inside : Inside saved state) {store : Store} {cursor : Cursor}
    (answered : answer statement state.world.store = .ok (store, cursor)) :
    ∃ after, Executor.issue unitSession none statement state = (.ok cursor, after) ∧
      Inside saved after ∧ after.world.store = store := by
  have answers := run_answers statement state.world
  rw [answered] at answers
  refine ⟨_, ?_, inside.run statement, answers.2⟩
  rw [issue_apply, answers.1]
  rfl

/-- Issuing a statement that is refused. -/
theorem issue_of_error (inside : Inside saved state) {refusal : Refusal}
    (refused : answer statement state.world.store = .error refusal) :
    ∃ after, Executor.issue unitSession none statement state =
      (.error refusal.toError, after) ∧ Inside saved after := by
  have answers := run_answers statement state.world
  rw [refused] at answers
  refine ⟨_, ?_, inside.run statement⟩
  rw [issue_apply, answers.1]
  rfl

/-- What a call leaves: its result, and the tables that others see. -/
def outcome (action : Action (UnitState Database) α) (database : Database) :
    Except Error α × List StoredTable :=
  let (result, after) := action ⟨database, false⟩
  (result, after.world.storedTables)

theorem scope_enter {database : Database} (closed : database.transaction = none) (holds : Bool) :
    scope.enter ⟨database, holds⟩ = (.ok (), ⟨database.begin, true⟩) := by
  rcases database with ⟨store, transaction, log⟩
  cases closed
  rfl

theorem scope_commit (database : Database) :
    scope.leave none ⟨database, true⟩ = (.ok (), ⟨database.finish .commit, false⟩) :=
  rfl

theorem scope_rollback {database : Database} {transaction : Transaction}
    (isOpen : database.transaction = some transaction) (failure : Error) :
    scope.leave (some failure) ⟨database, true⟩ = (.ok (), ⟨database.rollback, false⟩) := by
  rcases database with ⟨store, _, log⟩
  cases isOpen
  rfl

/-- A unit of work keeps what its body has done to the tables if the body succeeds, and nothing of
it otherwise. -/
theorem outcome_within {body : Action (UnitState Database) α} {database : Database}
    (closed : database.transaction = none) {result : Except Error α} {middle : UnitState Database}
    (ran : body ⟨database.begin, true⟩ = (result, middle))
    (inside : Inside database.store.tables middle) :
    outcome (scope.within body) database =
      (result, if result.isOk then middle.world.store.tables else database.store.tables) := by
  rcases middle with ⟨world, holds⟩
  rcases inside with ⟨isHeld, transaction, isOpen, isSaved⟩
  cases isHeld
  unfold outcome
  cases result with
  | ok value =>
      rw [Scope.within_of_ok (scope_enter closed false) ran (scope_commit world)]
      dsimp only
      rw [storedTables_of_closed (finish_transaction .commit world), finish_store]
      rfl
  | error failure =>
      rw [Scope.within_of_error (scope_enter closed false) ran (scope_rollback isOpen failure)]
      dsimp only at isOpen ⊢
      unfold rollback
      rw [storedTables_of_closed (finish_transaction .rollback _), finish_store, isOpen, ← isSaved]
      rfl

end Unit

end Database

end RecordGraph
