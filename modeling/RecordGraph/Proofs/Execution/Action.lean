import RecordGraph.Execution.UnitOfWork
import RecordGraph.Proofs.Result

/-!
Contract: the course of actions, step by step.

Owns: what a composed action does, given what its first part does, inserts of one row and their
selections by key, and what a body does in a scope.
Does not own: sessions and transactions.
-/

namespace RecordGraph

namespace Action

variable {σ α β : Type} {action : Action σ α} {next : α → Action σ β} {before after : σ}

/-- A computation that needs no world keeps it. -/
theorem ofExcept_apply (result : Result α) (world : σ) :
    (MonadExcept.ofExcept result : Action σ α) world = (result, world) := by
  cases result <;> rfl

theorem modify_apply (change : σ → σ) (world : σ) :
    (modify change : Action σ PUnit) world = (.ok ⟨⟩, change world) :=
  rfl

theorem get_apply (world : σ) : (get : Action σ σ) world = (.ok world, world) :=
  rfl

theorem bind_of_ok {value : α} (ran : action before = (.ok value, after)) :
    (action >>= next) before = next value after := by
  change (ExceptT.bindCont next (action before).1) (action before).2 = _
  rw [ran]
  rfl

theorem bind_of_error {failure : Error} (ran : action before = (.error failure, after)) :
    (action >>= next) before = (.error failure, after) := by
  change (ExceptT.bindCont next (action before).1) (action before).2 = _
  rw [ran]
  rfl

/-- What leaves the world alone does not show in it. -/
theorem bind_state (quiet : ∀ value world, (next value world).2 = world) :
    ((action >>= next) before).2 = (action before).2 := by
  cases ran : action before with
  | mk result after =>
      cases result with
      | ok value =>
          rw [bind_of_ok ran]
          exact quiet value after
      | error failure => rw [bind_of_error ran]

/-- A composed action succeeds if both of its parts do. -/
theorem bind_eq_ok {value : β} :
    (action >>= next) before = (.ok value, after) ↔
      ∃ first middle, action before = (.ok first, middle) ∧ next first middle = (.ok value, after) := by
  constructor
  · intro ran
    cases first : action before with
    | mk result middle =>
        cases result with
        | ok found => exact ⟨found, middle, rfl, (bind_of_ok first).symm.trans ran⟩
        | error failure =>
            rw [bind_of_error first] at ran
            cases ran
  · rintro ⟨found, middle, first, second⟩
    exact (bind_of_ok first).trans second

theorem ofExcept_eq_ok {result : Result α} {value : α} :
    (MonadExcept.ofExcept result : Action σ α) before = (.ok value, after) ↔
      result = .ok value ∧ before = after := by
  rw [ofExcept_apply, Prod.mk.injEq]

theorem map_apply (finish : α → β) (action : Action σ α) (world : σ) :
    (finish <$> action) world = ((action world).1.map finish, (action world).2) := by
  cases ran : action world with
  | mk result after =>
      cases result with
      | ok value => exact bind_of_ok ran
      | error failure => exact bind_of_error ran

theorem map_eq_ok {finish : α → β} {value : β} :
    (finish <$> action) before = (.ok value, after) ↔
      ∃ first, action before = (.ok first, after) ∧ finish first = value := by
  rw [map_apply, Prod.mk.injEq, Result.map_eq_ok]
  constructor
  · rintro ⟨⟨first, isFirst, same⟩, isAfter⟩
    exact ⟨first, Prod.ext isFirst isAfter, same⟩
  · rintro ⟨first, ran, same⟩
    rw [ran]
    exact ⟨⟨first, rfl, same⟩, rfl⟩

/-- An action whose outcome is looked at instead of being passed on. -/
theorem lift_run_apply (action : Action σ α) (world : σ) :
    (ExceptT.lift action.run : Action σ (Except Error α)) world =
      (.ok (action world).1, (action world).2) :=
  rfl

end Action

/-! ## Inserts of one row -/

/-- The selection of the row with a key. -/
def Sql.Select.byKey (table : Table) (key : Column) (value : Value) : Sql.Select :=
  { table, conditions := [Sql.Condition.equal (Sql.Term.ofColumn table key) value] }

namespace Executor

variable {σ : Type} {session : Session σ} {cancel : Option (σ → Bool)} {before after : σ}

/-- A statement that is issued with success has run. -/
theorem run_of_issue {statement : Sql.Statement} {cursor : Cursor}
    (issued : issue session cancel statement before = (.ok cursor, after)) :
    session.run statement before = (.done cursor, after) := by
  unfold issue at issued
  split at issued
  · cases issued
  · cases ran : session.run statement before with
    | mk reply world =>
        rw [ran] at issued
        cases reply with
        | done found =>
            cases issued
            rfl
        | refused refusal => cases issued
        | overtaken => cases issued

theorem selectOne_eq_ok {query : Sql.Select} {found : Option Record}
    (ran : selectOne session cancel query before = (.ok found, after)) :
    ∃ cursor, issue session cancel (.select query) before = (.ok cursor, after) ∧
      cursor.rows.head? = found := by
  unfold selectOne at ran
  obtain ⟨cursor, middle, issued, ran⟩ := Action.bind_eq_ok.1 ran
  have same : Except.ok cursor.rows.head? = Except.ok found ∧ middle = after := Prod.mk.inj ran
  rw [← same.2]
  exact ⟨cursor, issued, Except.ok.inj same.1⟩

theorem change_eq_ok {statement : Sql.Statement} {count : Int}
    (ran : (ofSession session cancel).change statement before = (.ok count, after)) :
    ∃ cursor, issue session cancel statement before = (.ok cursor, after) := by
  obtain ⟨cursor, middle, issued, ran⟩ := Action.bind_eq_ok.1 ran
  cases ran
  exact ⟨cursor, issued⟩

/-- A row that is handed back after an insert was selected after it. -/
theorem insertAndReselect_eq_some {single : CompiledInsert} {record : Record}
    (ran : insertAndReselect session cancel single before = (.ok (some record), after)) :
    ∃ cursor middle, issue session cancel (.insert single.statement) before = (.ok cursor, middle) ∧
      selectOne session cancel
        (reselect single.table (single.rows.headD []) cursor.insertedKey) middle =
          (.ok (some record), after) := by
  unfold insertAndReselect at ran
  obtain ⟨cursor, middle, issued, ran⟩ := Action.bind_eq_ok.1 ran
  refine ⟨cursor, middle, issued, ?_⟩
  split at ran
  · cases ran
  · exact ran

/-- Without asking, an insert of one row hands back what is selected, if anything is. -/
theorem insertRows_of_single {compiled : CompiledInsert} {row : Record}
    (isSingle : compiled.rows = [row]) (isSilent : compiled.contract.returning = false) :
    insertRows session cancel compiled =
      Option.toList <$> insertAndReselect session cancel compiled := by
  have isPerRow : compiled.perRow = .ok [compiled] := by
    unfold CompiledInsert.perRow
    rw [isSingle]
    rfl
  have isToList : ∀ found : Option Record, [found].filterMap id = found.toList := by
    rintro (_ | record) <;> rfl
  unfold insertRows
  rw [isPerRow, isSilent]
  refine (if_neg Bool.false_ne_true).trans ?_
  simp only [List.mapM_cons, List.mapM_nil, pure_bind, bind_assoc, isToList, map_eq_pure_bind]

/-- An insert of one row that hands back a record was issued, and has asked for the row or selected it
anew. -/
theorem insertRows_eq_ok {compiled : CompiledInsert} {row record : Record} {rows : List Record}
    (isSingle : compiled.rows = [row])
    (ran : insertRows session cancel compiled before = (.ok rows, after))
    (handed : rows.head? = some record) :
    ∃ cursor middle,
      issue session cancel (.insert compiled.statement) before = (.ok cursor, middle) ∧
        if compiled.contract.returning then cursor.rows = rows ∧ middle = after
        else selectOne session cancel (reselect compiled.table row cursor.insertedKey) middle =
          (.ok (some record), after) := by
  cases returning : compiled.contract.returning with
  | true =>
      unfold insertRows at ran
      rw [returning, if_pos rfl] at ran
      obtain ⟨cursor, middle, issued, ran⟩ := Action.bind_eq_ok.1 ran
      cases ran
      exact ⟨cursor, after, issued, rfl, rfl⟩
  | false =>
      rw [insertRows_of_single isSingle returning] at ran
      obtain ⟨found, selected, rfl⟩ := Action.map_eq_ok.1 ran
      cases found with
      | none => cases handed
      | some other =>
          cases handed
          obtain ⟨cursor, middle, issued, reselected⟩ := insertAndReselect_eq_some selected
          rw [isSingle] at reselected
          exact ⟨cursor, middle, issued, reselected⟩

end Executor

/-! ## Scopes -/

theorem Scope.within_of_ok {σ α : Type} {scope : Scope σ} {body : Action σ α}
    {before entered middle after : σ} {value : α}
    (enterRan : scope.enter before = (.ok (), entered)) (bodyRan : body entered = (.ok value, middle))
    (leaveRan : scope.leave none middle = (.ok (), after)) :
    scope.within body before = (.ok value, after) := by
  unfold Scope.within
  refine (Action.bind_of_ok enterRan).trans ?_
  refine (Action.bind_of_ok (Action.lift_run_apply _ _)).trans ?_
  rw [bodyRan]
  exact (Action.bind_of_ok leaveRan).trans rfl

/-- A scope that is not entered runs nothing. -/
theorem Scope.within_of_refused {σ α : Type} {scope : Scope σ} {body : Action σ α}
    {before after : σ} {failure : Error} (refused : scope.enter before = (.error failure, after)) :
    scope.within body before = (.error failure, after) :=
  Action.bind_of_error refused

/-- A body that succeeds in a scope was entered and left. -/
theorem Scope.within_eq_ok {σ α : Type} {scope : Scope σ} {body : Action σ α} {before after : σ}
    {value : α} (ran : scope.within body before = (.ok value, after)) :
    ∃ entered middle, scope.enter before = (.ok (), entered) ∧ body entered = (.ok value, middle) ∧
      scope.leave none middle = (.ok (), after) := by
  unfold Scope.within at ran
  obtain ⟨_, entered, enterRan, ran⟩ := Action.bind_eq_ok.1 ran
  obtain ⟨outcome, middle, bodyRan, ran⟩ := Action.bind_eq_ok.1 ran
  rw [Action.lift_run_apply] at bodyRan
  cases outcome with
  | error failure =>
      obtain ⟨_, _, _, ran⟩ := Action.bind_eq_ok.1 ran
      cases ran
  | ok found =>
      obtain ⟨_, left, leaveRan, ran⟩ := Action.bind_eq_ok.1 ran
      cases ran
      refine ⟨entered, middle, enterRan, ?_, leaveRan⟩
      rw [Prod.mk.injEq] at bodyRan
      exact Prod.ext (Except.ok.inj bodyRan.1) bodyRan.2

theorem Scope.within_of_error {σ α : Type} {scope : Scope σ} {body : Action σ α}
    {before entered middle after : σ} {failure : Error}
    (enterRan : scope.enter before = (.ok (), entered))
    (bodyRan : body entered = (.error failure, middle))
    (leaveRan : scope.leave (some failure) middle = (.ok (), after)) :
    scope.within body before = (.error failure, after) := by
  unfold Scope.within
  refine (Action.bind_of_ok enterRan).trans ?_
  refine (Action.bind_of_ok (Action.lift_run_apply _ _)).trans ?_
  rw [bodyRan]
  exact (Action.bind_of_ok leaveRan).trans rfl

/-- The scope of a caller adds nothing to a body. -/
theorem Scope.entered_within {σ α : Type} (body : Action σ α) :
    Scope.entered.within body = body := by
  funext state
  cases ran : body state with
  | mk result after =>
      cases result with
      | ok value => exact Scope.within_of_ok rfl ran rfl
      | error failure => exact Scope.within_of_error rfl ran rfl

end RecordGraph
