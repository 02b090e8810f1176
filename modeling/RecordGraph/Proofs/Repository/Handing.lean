import RecordGraph.Proofs.Store.Asking
import RecordGraph.Repository

/-!
Contract: calls that insert one row into the database in memory.

Owns: `Repository.handing`, the rows that an insert hands back with and without asking for them, and
what a call leaves.
Does not own: when both ways agree.
-/

namespace RecordGraph

open RecordGraph.Sql

/-! ## Bodies -/

namespace Repository

open Database

variable {saved : List StoredTable} {state : UnitState Database} {compiled : CompiledInsert}
variable {row : Record}

/-- The selection of the row that an insert of one row has touched. -/
def reselection (insert : Insert) (row : Record) (store : Store) : Select :=
  Executor.reselect insert.table row (insert.reportedKey store)

/-- An insert that asks for its row hands back what it has touched. -/
theorem insertRows_asking (inside : Inside saved state) (isSingle : compiled.rows = [row])
    {store : Store} {touched : List StoredRow}
    (settles : compiled.statement.Settles state.world.store store touched) :
    ∃ after, Executor.insertRows unitSession none (compiled.asking true) state =
      (.ok (touched.map compiled.statement.handedBack), after) ∧ Inside saved after ∧
        after.world.store = store := by
  have answered := (Insert.answer_asking_iff isSingle true).2 ⟨touched, settles, rfl⟩
  rcases issue_of_ok inside answered with ⟨after, issued, stillInside, isStore⟩
  refine ⟨after, ?_, stillInside, isStore⟩
  unfold Executor.insertRows
  refine (congrFun (if_pos rfl) state).trans ?_
  exact (Action.bind_of_ok issued).trans rfl

/-- An insert that touches nothing selects nothing. -/
theorem insertAndReselect_nil (inside : Inside saved state) (isSingle : compiled.rows = [row])
    {store : Store} (settles : compiled.statement.Settles state.world.store store []) :
    ∃ after, Executor.insertAndReselect unitSession none (compiled.asking false) state =
      (.ok none, after) ∧ Inside saved after ∧ after.world.store = store := by
  have answered := (Insert.answer_asking_iff isSingle false).2 ⟨[], settles, rfl⟩
  rcases issue_of_ok inside answered with ⟨after, issued, stillInside, isStore⟩
  refine ⟨after, ?_, stillInside, isStore⟩
  exact (Action.bind_of_ok issued).trans rfl

/-- An insert that touches a row selects by key afterwards. -/
theorem insertAndReselect_single (inside : Inside saved state) (isSingle : compiled.rows = [row])
    {store : Store} {hit : StoredRow}
    (settles : compiled.statement.Settles state.world.store store [hit]) :
    ∃ middle, Inside saved middle ∧ middle.world.store = store ∧
      Executor.insertAndReselect unitSession none (compiled.asking false) state =
        Executor.selectOne unitSession none (reselection compiled.statement row store) middle := by
  have answered := (Insert.answer_asking_iff isSingle false).2 ⟨[hit], settles, rfl⟩
  rcases issue_of_ok inside answered with ⟨middle, issued, stillInside, isStore⟩
  refine ⟨middle, stillInside, isStore, ?_⟩
  have isRow : ((compiled.asking false).rows.headD []) = row := by
    change compiled.rows.headD [] = row
    rw [isSingle]
    rfl
  unfold Executor.insertAndReselect
  refine (Action.bind_of_ok issued).trans ?_
  rw [isRow]
  rfl

/-- What a selection of one row gives. -/
def selected (query : Select) (store : Store) : Except Error (Option Record) :=
  match answer (.select query) store with
  | .ok (_, cursor) => .ok cursor.rows.head?
  | .error refusal => .error refusal.toError

theorem selectOne_eq (inside : Inside saved state) (query : Select) :
    ∃ after, Executor.selectOne unitSession none query state =
      (selected query state.world.store, after) ∧ Inside saved after ∧
        ((selected query state.world.store).isOk = true →
          after.world.store = state.world.store) := by
  unfold selected
  cases answered : answer (.select query) state.world.store with
  | error refusal =>
      rcases issue_of_error inside answered with ⟨after, issued, stillInside⟩
      exact ⟨after, Action.bind_of_error issued, stillInside, nofun⟩
  | ok outcome =>
      have unchanged : outcome.1 = state.world.store := by
        have evaluated := (answer_eq_ok_iff.1 answered).2.2.1
        exact (congrArg Prod.fst (Except.ok.inj evaluated)).symm
      rcases issue_of_ok inside answered with ⟨after, issued, stillInside, isStore⟩
      exact ⟨after, (Action.bind_of_ok issued).trans rfl, stillInside, fun _ =>
        isStore.trans unchanged⟩

/-- What is selected anew after an insert. -/
def reselected (insert : Insert) (row : Record) (store : Store) : Except Error (Option Record) :=
  match answer (.select (reselection insert row store)) store with
  | .ok (_, cursor) => .ok cursor.rows.head?
  | .error refusal => .error refusal.toError

theorem selectOne_apply (inside : Inside saved state) (insert : Insert) (row : Record) :
    ∃ after, Executor.selectOne unitSession none (reselection insert row state.world.store) state =
      (reselected insert row state.world.store, after) ∧ Inside saved after ∧
        ((reselected insert row state.world.store).isOk = true →
          after.world.store = state.world.store) :=
  selectOne_eq inside (reselection insert row state.world.store)

/-! ## Calls -/

/-- A repository over the database in memory that asks for the rows of its inserts, or does not. -/
def handing (registry : Registry) (entity : Entity) (config : Config) (returning : Bool) :
    Repository (UnitState Database) where
  registry
  entity
  config := { config with useReturning := some returning }
  scope := some Database.scope
  executor := Database.executor

/-- What an insert of one row does in its unit of work. -/
def insertBody (table : Table) (values : Record) (policy : Option ConflictPolicy)
    (returning : Bool) : Action (UnitState Database) (Option Record) := do
  let compiled ← lift (CompiledInsert.compile table [values] .sqlite policy (some returning))
  let rows ← Executor.insertRows unitSession none compiled
  lift (compiled.contract.one rows)

theorem insert_eq (registry : Registry) (entity : Entity) (config : Config) (returning : Bool)
    (values : Record) (policy : Option ConflictPolicy) :
    (handing registry entity config returning).insert values policy =
      (do
        let values ← lift (columnValues entity values)
        Database.scope.within (insertBody entity.table values policy returning)) := by
  have sameBody : ∀ values, ((do
      let delivery ← (handing registry entity config returning).compileAndRun
        (Database.executor none) entity.table [values] policy
      lift (delivery.1.contract.one delivery.2)) : Action (UnitState Database) (Option Record)) =
        insertBody entity.table values policy returning := by
    intro values
    unfold compileAndRun insertBody
    simp only [bind_assoc, pure_bind]
    rfl
  unfold Repository.insert
  refine bind_congr fun values => ?_
  rw [← sameBody]
  rfl

/-- The rows that an insert of one row hands back, asking for them or not. -/
def delivered (insert : Insert) (row : Record) (store : Store) (touched : List StoredRow) :
    (returning : Bool) → Except Error (List Record)
  | true => .ok (touched.map insert.handedBack)
  | false =>
      match touched with
      | [] => .ok []
      | _ :: _ => (reselected insert row store).map Option.toList

theorem insertRows_apply (inside : Inside saved state) (isSingle : compiled.rows = [row])
    {store : Store} {touched : List StoredRow}
    (settles : compiled.statement.Settles state.world.store store touched) (returning : Bool) :
    ∃ after, Executor.insertRows unitSession none (compiled.asking returning) state =
      (delivered compiled.statement row store touched returning, after) ∧ Inside saved after ∧
        ((delivered compiled.statement row store touched returning).isOk = true →
          after.world.store = store) := by
  cases returning with
  | true =>
      rcases insertRows_asking inside isSingle settles with ⟨after, ran, stillInside, isStore⟩
      exact ⟨after, ran, stillInside, fun _ => isStore⟩
  | false =>
      have isSingle' : (compiled.asking false).rows = [row] := isSingle
      rw [Executor.insertRows_of_single isSingle' rfl, Action.map_apply]
      cases touched with
      | nil =>
          rcases insertAndReselect_nil inside isSingle settles with ⟨after, ran, stillInside, isStore⟩
          rw [ran]
          exact ⟨after, rfl, stillInside, fun _ => isStore⟩
      | cons hit rest =>
          rcases settles.single isSingle with ⟨_, single, _, _, isHit⟩
          have isNil : rest = [] := by
            cases single with
            | none => cases isHit
            | some other => exact (List.cons.inj isHit).2
          subst isNil
          rcases insertAndReselect_single inside isSingle settles with
            ⟨middle, stillInside, isStore, ran⟩
          rcases selectOne_apply stillInside compiled.statement row with
            ⟨after, selected, finallyInside, afterStore⟩
          rw [isStore] at selected afterStore
          rw [ran, selected]
          refine ⟨after, rfl, finallyInside, fun isOk => afterStore ?_⟩
          change ((reselected compiled.statement row store).map Option.toList).isOk = true at isOk
          cases isFound : reselected compiled.statement row store with
          | ok found => rfl
          | error failure =>
              rw [isFound] at isOk
              cases isOk

variable {table : Table} {values : Record} {policy : Option ConflictPolicy}

/-- Whether an insert of one row is compiled and carried out. -/
structure Carries (table : Table) (values : Record) (policy : Option ConflictPolicy)
    (store : Store) (compiled : CompiledInsert) (store' : Store) (touched : List StoredRow) :
    Prop where
  compiles : CompiledInsert.compile table [values] .sqlite policy (some false) = .ok compiled
  settles : compiled.statement.Settles store store' touched

/-- What is returned for an insert that has touched some rows. -/
def returned (compiled : CompiledInsert) (values : Record) (store : Store)
    (touched : List StoredRow) (returning : Bool) : Except Error (Option Record) :=
  delivered compiled.statement values store touched returning >>= compiled.contract.one

theorem insertBody_of_carries (inside : Inside saved state) {store : Store}
    {touched : List StoredRow}
    (carries : Carries table values policy state.world.store compiled store touched)
    (returning : Bool) :
    ∃ after, insertBody table values policy returning state =
      (returned compiled values store touched returning, after) ∧ Inside saved after ∧
        ((returned compiled values store touched returning).isOk = true →
          after.world.store = store) := by
  have isSingle : compiled.rows = [values] :=
    (CompiledInsert.statement_of_compile carries.compiles).2.1
  have isAsking : CompiledInsert.compile table [values] .sqlite policy (some returning) =
      .ok (compiled.asking returning) := by
    rw [CompiledInsert.compile_asking, carries.compiles]
    rfl
  have sameOne : (compiled.asking returning).contract.one = compiled.contract.one := by
    funext rows
    cases rows <;> rfl
  rcases insertRows_apply inside isSingle carries.settles returning with
    ⟨after, ran, stillInside, isStore⟩
  refine ⟨after, ?_, stillInside, fun isOk => isStore ?_⟩
  · unfold insertBody
    rw [isAsking]
    refine (Action.bind_of_ok (Action.ofExcept_apply _ state)).trans ?_
    unfold returned
    cases isDelivered : delivered compiled.statement values store touched returning with
    | error failure =>
        rw [isDelivered] at ran
        exact Action.bind_of_error ran
    | ok rows =>
        rw [isDelivered] at ran
        refine (Action.bind_of_ok ran).trans ?_
        rw [sameOne]
        exact Action.ofExcept_apply _ _
  · unfold returned at isOk
    cases isDelivered : delivered compiled.statement values store touched returning with
    | error failure =>
        rw [isDelivered] at isOk
        cases isOk
    | ok rows => rfl

/-- An insert that is not carried out fails. -/
theorem insertBody_of_not_carries (inside : Inside saved state)
    (refused : ¬∃ compiled store touched,
      Carries table values policy state.world.store compiled store touched) (returning : Bool) :
    ∃ failure after, insertBody table values policy returning state = (.error failure, after) ∧
      Inside saved after := by
  unfold insertBody
  rw [CompiledInsert.compile_asking]
  cases compiles : CompiledInsert.compile table [values] .sqlite policy (some false) with
  | error failure => exact ⟨failure, state, Action.bind_of_error rfl, inside⟩
  | ok compiled =>
      have isSingle : compiled.rows = [values] :=
        (CompiledInsert.statement_of_compile compiles).2.1
      cases answered : answer (.insert (compiled.statement.asking returning)) state.world.store with
      | ok outcome =>
          rcases (Insert.answer_asking_iff isSingle returning).1 answered with ⟨touched, settles, _⟩
          exact absurd ⟨compiled, outcome.1, touched, compiles, settles⟩ refused
      | error refusal =>
          rcases issue_of_error inside answered with ⟨after, issued, stillInside⟩
          have ran : Executor.insertRows unitSession none (compiled.asking returning) state =
              (.error refusal.toError, after) := by
            cases returning with
            | true =>
                unfold Executor.insertRows
                refine (congrFun (if_pos rfl) state).trans ?_
                exact Action.bind_of_error issued
            | false =>
                have selects : Executor.insertAndReselect unitSession none (compiled.asking false)
                    state = (.error refusal.toError, after) := Action.bind_of_error issued
                have isSingle' : (compiled.asking false).rows = [values] := isSingle
                rw [Executor.insertRows_of_single isSingle' rfl, Action.map_apply, selects]
                rfl
          refine ⟨refusal.toError, after, ?_, stillInside⟩
          refine (Action.bind_of_ok (Action.ofExcept_apply _ state)).trans ?_
          exact Action.bind_of_error ran

/-- A call is its body in a unit of work, if its values are columns. -/
theorem outcome_insert (registry : Registry) (entity : Entity) (config : Config) (returning : Bool)
    (values : Record) (policy : Option ConflictPolicy) {database : Database}
    (closed : database.transaction = none) :
    (∃ failure, columnValues entity values = .error failure ∧
      outcome ((handing registry entity config returning).insert values policy) database =
        (.error failure, database.store.tables)) ∨
    (columnValues entity values = .ok values ∧
      outcome ((handing registry entity config returning).insert values policy) database =
        outcome (Database.scope.within (insertBody entity.table values policy returning))
          database) := by
  rw [insert_eq]
  unfold outcome columnValues
  split
  · exact .inr ⟨rfl, rfl⟩
  · exact .inl ⟨_, rfl, Prod.ext rfl (storedTables_of_closed closed)⟩

/-- What a call leaves whose insert is carried out. -/
theorem outcome_of_carries {registry : Registry} {entity : Entity} {config : Config}
    {values : Record} {policy : Option ConflictPolicy} {database : Database}
    (closed : database.transaction = none) (taken : columnValues entity values = .ok values)
    {compiled : CompiledInsert} {store : Store} {touched : List StoredRow}
    (carries : Carries entity.table values policy database.store compiled store touched)
    (returning : Bool) :
    outcome ((handing registry entity config returning).insert values policy) database =
      (returned compiled values store touched returning,
        if (returned compiled values store touched returning).isOk then store.tables
        else database.store.tables) := by
  rcases outcome_insert registry entity config returning values policy closed with
    ⟨failure, refused, _⟩ | ⟨_, isWithin⟩
  · exact absurd (taken.symm.trans refused) nofun
  · rcases insertBody_of_carries (inside_begin database) carries returning with
      ⟨after, ran, inside, isStore⟩
    rw [isWithin, outcome_within closed ran inside]
    cases isOk : (returned compiled values store touched returning).isOk with
    | false => rfl
    | true => rw [isStore isOk]

/-- A call whose insert is not carried out fails and leaves the tables as they were. -/
theorem outcome_of_not_carries {registry : Registry} {entity : Entity} {config : Config}
    {values : Record} {policy : Option ConflictPolicy} {database : Database}
    (closed : database.transaction = none)
    (refused : ¬∃ compiled store touched, columnValues entity values = .ok values ∧
      Carries entity.table values policy database.store compiled store touched)
    (returning : Bool) :
    ∃ failure, outcome ((handing registry entity config returning).insert values policy) database =
      (.error failure, database.store.tables) := by
  rcases outcome_insert registry entity config returning values policy closed with
    ⟨failure, _, isOutcome⟩ | ⟨taken, isWithin⟩
  · exact ⟨failure, isOutcome⟩
  · have notCarried : ¬∃ compiled store touched,
        Carries entity.table values policy database.begin.store compiled store touched :=
      fun ⟨compiled, store, touched, carries⟩ =>
        refused ⟨compiled, store, touched, taken, carries⟩
    rcases insertBody_of_not_carries (inside_begin database) notCarried returning with
      ⟨failure, after, ran, inside⟩
    refine ⟨failure, ?_⟩
    rw [isWithin, outcome_within closed ran inside]
    rfl

end Repository

end RecordGraph
