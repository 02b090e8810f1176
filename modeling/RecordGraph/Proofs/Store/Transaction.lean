import RecordGraph.Proofs.Execution.Journal
import RecordGraph.Store.Database

/-!
Contract: the database in memory keeps the promises of a session.

Owns: what statements and the control of transactions do to the tables that are saved and to those
that are current.
Does not own: the effect of single statements.
-/

namespace RecordGraph.Database

open RecordGraph.Sql

/-- The tables that others see. -/
def storedTables (database : Database) : List StoredTable :=
  match database.transaction with
  | some transaction => transaction.saved
  | none => database.store.tables

/-- What a statement does to tables. -/
def Changes (statement : Statement) (before after : List StoredTable) : Prop :=
  ∃ store store' cursor, statement.evaluate store = .ok (store', cursor) ∧
    store.tables = before ∧ store'.tables = after

theorem execute_transaction (statement : Statement) (values : List Value) (database : Database) :
    (database.execute statement values).2.transaction = database.transaction := by
  unfold execute
  split
  · rfl
  · split
    · rfl
    · split
      · rfl
      · split <;> rfl

theorem run_transaction (statement : Statement) (database : Database) :
    (run statement database).2.transaction = database.start.transaction := by
  unfold run
  dsimp only
  split
  · rfl
  · split
    · rfl
    · exact execute_transaction _ _ _

theorem execute_changes {statement : Statement} {values : List Value} {database : Database}
    {cursor : Cursor} (done : (database.execute statement values).1 = .done cursor) :
    Changes statement database.store.tables
      (database.execute statement values).2.store.tables := by
  unfold execute at done ⊢
  cases prepared : prepare statement with
  | error failure =>
      rw [prepared] at done
      cases done
  | ok _ =>
      rw [prepared] at done
      cases refused : firstRefusal 1 values with
      | some refusal =>
          rw [refused] at done
          cases done
      | none =>
          rw [refused] at done
          cases evaluated : statement.evaluate database.store with
          | error failure =>
              rw [evaluated] at done
              cases done
          | ok outcome =>
              rw [evaluated] at done
              dsimp only at done ⊢
              by_cases ambiguous : isAmbiguous statement outcome.2 = true
              · rw [if_pos ambiguous] at done
                cases done
              · rw [if_neg ambiguous]
                exact ⟨database.store, outcome.1, outcome.2, evaluated, rfl, rfl⟩

theorem run_changes {statement : Statement} {database : Database} {cursor : Cursor}
    (done : (run statement database).1 = .done cursor) :
    Changes statement database.store.tables (run statement database).2.store.tables := by
  unfold run at done ⊢
  dsimp only at done ⊢
  cases written : statement.text .sqlite with
  | error fault =>
      rw [written] at done
      cases done
  | ok rendered =>
      rw [written] at done
      dsimp only at done ⊢
      cases bound : boundValues rendered.parameters with
      | none =>
          rw [bound] at done
          cases done
      | some values =>
          rw [bound] at done
          exact execute_changes done

theorem finish_transaction (entry : LogEntry) (database : Database) :
    (database.finish entry).transaction = none := by
  unfold finish
  dsimp only
  split <;> rfl

theorem finish_store (entry : LogEntry) (database : Database) :
    (database.finish entry).store = database.store := by
  unfold finish
  dsimp only
  split <;> rfl

theorem storedTables_of_open {database : Database} {transaction : Transaction}
    (isOpen : database.transaction = some transaction) :
    database.storedTables = transaction.saved := by
  unfold storedTables
  rw [isOpen]

theorem storedTables_of_closed {database : Database} (isClosed : database.transaction = none) :
    database.storedTables = database.store.tables := by
  unfold storedTables
  rw [isClosed]

/-- The database in memory keeps the promises of a session. -/
def transactional : Transactional control session (List StoredTable) where
  stored := storedTables
  current database := database.store.tables
  Effect := Changes
  create world closed := ⟨world, rfl, closed, rfl⟩
  begin world closed := by
    have isClosed : world.transaction = none := by
      rw [← Option.isNone_iff_eq_none]
      exact Option.isSome_eq_false_iff.1 closed
    have stored := storedTables_of_closed isClosed
    exact ⟨world.begin, rfl, rfl, stored.symm, stored.symm⟩
  run statement world opened := by
    rcases Option.isSome_iff_exists.1 opened with ⟨transaction, isOpen⟩
    have stillOpen : (run statement world).2.transaction =
        some { transaction with started := true } := by
      rw [run_transaction, start, isOpen]
      rfl
    refine ⟨?_, ?_, fun cursor done => run_changes done⟩
    · exact Option.isSome_iff_exists.2 ⟨_, stillOpen⟩
    · exact (storedTables_of_open stillOpen).trans (storedTables_of_open isOpen).symm
  commit world opened := by
    refine ⟨world.finish .commit, rfl, ?_⟩
    rw [storedTables_of_closed (finish_transaction .commit world), finish_store]
  rollback world opened := by
    rcases Option.isSome_iff_exists.1 opened with ⟨transaction, isOpen⟩
    refine ⟨world.rollback, rfl, ?_⟩
    unfold rollback
    rw [storedTables_of_closed (finish_transaction .rollback _), finish_store, isOpen,
      storedTables_of_open isOpen]
  close world := ⟨world, rfl, rfl⟩

end RecordGraph.Database
