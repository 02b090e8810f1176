import Mathlib.Data.Set.List
import RecordGraph.Proofs.Execution.Requests

/-!
Contract: what an action sends to the session of a unit of work, and the errors that it can fail
with.

Owns: `Workplace.sent`, `Action.Sends`, `Action.FailsOnly`, that entering and leaving a unit of work
sends no statement and fails with no error of planning, and `Executor.Selects`.
Does not own: the statements of any operation.

Nothing is assumed of the transaction control here. Both notions are closed under composition, so
that an operation has them because its steps do.
-/

namespace RecordGraph

open RecordGraph.Sql

/-- Whether an error is of a class that planning raises. -/
def Error.isPlanning (error : Error) : Bool :=
  match error.kind with
  | .schema | .syntaxError | .notAllowed | .unknownRelation => true
  | _ => false

/-- The statement that an event issues, if it issues one. -/
def Event.statement? {σ : Type} : Event σ → Option Statement
  | .issued issue => some issue.statement
  | _ => none

/-- The statements that have been sent to the session of a unit of work. -/
def Workplace.sent {σ : Type} (state : Workplace σ) : List Statement :=
  state.world.journal.filterMap Event.statement?

namespace Action

variable {σ α β : Type}

/-- Whether an action sends statements of one kind only. -/
def Sends (kind : Statement → Prop) (action : Action (Workplace σ) α) : Prop :=
  ∀ before, ∃ statements, Workplace.sent (action before).2 = Workplace.sent before ++ statements ∧
    ∀ statement ∈ statements, kind statement

/-- Whether an action sends no statement. -/
abbrev Silent (action : Action (Workplace σ) α) : Prop :=
  action.Sends fun _ => False

/-- Whether an action fails with certain errors only. -/
def FailsOnly (allowed : Error → Prop) (action : Action σ α) : Prop :=
  ∀ before failure, (action before).1 = .error failure → allowed failure

/-- Whether an action fails with no error of planning. -/
abbrev FailsLate (action : Action σ α) : Prop :=
  action.FailsOnly fun failure => failure.isPlanning = false

section Sends

variable {kind : Statement → Prop} {action : Action (Workplace σ) α}
  {next : α → Action (Workplace σ) β}

/-- A step that leaves what was sent alone. -/
theorem Sends.of_same
    (same : ∀ before, Workplace.sent (action before).2 = Workplace.sent before) :
    action.Sends kind :=
  fun before => ⟨[], by rw [same before, List.append_nil],
    fun _ member => absurd member List.not_mem_nil⟩

theorem Silent.sent (silent : action.Silent) (before : Workplace σ) :
    Workplace.sent (action before).2 = Workplace.sent before := by
  obtain ⟨statements, isSent, areNone⟩ := silent before
  rw [isSent, List.eq_nil_iff_forall_not_mem.2 areNone, List.append_nil]

theorem Sends.ofExcept (result : Result α) :
    Sends kind (MonadExcept.ofExcept result : Action (Workplace σ) α) :=
  .of_same fun before => by rw [ofExcept_apply]

theorem Sends.pure (value : α) : Sends kind (Pure.pure value : Action (Workplace σ) α) :=
  .of_same fun _ => rfl

theorem Sends.throw (failure : Error) :
    Sends kind (MonadExcept.throw failure : Action (Workplace σ) α) :=
  .of_same fun _ => rfl

theorem Sends.bind (first : action.Sends kind) (second : ∀ value, (next value).Sends kind) :
    (action >>= next).Sends kind := by
  intro before
  obtain ⟨earlier, isEarlier, earlierKind⟩ := first before
  cases ran : action before with
  | mk result middle =>
      rw [ran] at isEarlier
      cases result with
      | error failure =>
          rw [bind_of_error ran]
          exact ⟨earlier, isEarlier, earlierKind⟩
      | ok value =>
          obtain ⟨later, isLater, laterKind⟩ := second value middle
          rw [bind_of_ok ran]
          refine ⟨earlier ++ later, by rw [isLater, isEarlier, List.append_assoc], ?_⟩
          exact List.forall_mem_append.2 ⟨earlierKind, laterKind⟩

theorem Sends.lift_run (sends : action.Sends kind) :
    Sends kind (ExceptT.lift action.run : Action (Workplace σ) (Except Error α)) := by
  intro before
  rw [lift_run_apply]
  exact sends before

end Sends

section FailsOnly

variable {allowed wider : Error → Prop} {action : Action σ α} {next : α → Action σ β}

theorem FailsOnly.mono (fails : action.FailsOnly allowed)
    (implies : ∀ failure, allowed failure → wider failure) : action.FailsOnly wider :=
  fun before failure failed => implies failure (fails before failure failed)

theorem FailsOnly.ofExcept {result : Result α}
    (fails : ∀ failure, result = .error failure → allowed failure) :
    FailsOnly allowed (MonadExcept.ofExcept result : Action σ α) := by
  intro before failure failed
  rw [ofExcept_apply] at failed
  exact fails failure failed

theorem FailsOnly.pure (value : α) : FailsOnly allowed (Pure.pure value : Action σ α) :=
  fun _ _ impossible => nomatch impossible

theorem FailsOnly.throw {failure : Error} (isAllowed : allowed failure) :
    FailsOnly allowed (MonadExcept.throw failure : Action σ α) :=
  fun _ _ failed => Except.error.inj failed ▸ isAllowed

theorem FailsOnly.bind (first : action.FailsOnly allowed)
    (second : ∀ value, (next value).FailsOnly allowed) : (action >>= next).FailsOnly allowed := by
  intro before failure failed
  have firstFails := first before
  cases ran : action before with
  | mk result middle =>
      rw [ran] at firstFails
      cases result with
      | error other =>
          rw [bind_of_error ran] at failed
          cases failed
          exact firstFails failure rfl
      | ok value =>
          rw [bind_of_ok ran] at failed
          exact second value middle failure failed

end FailsOnly

end Action

theorem Error.eq_interrupted {failure : Error} (notOrdinary : failure.isOrdinary = false) :
    failure = .foreign .interrupted := by
  unfold isOrdinary at notOrdinary
  split at notOrdinary
  · rfl
  · cases notOrdinary

/-! ## Units of work -/

namespace UnitOfWork

open RecordGraph.Action

variable {σ α : Type} {control : SessionControl σ}

section Recast

theorem sends_recast {kind : Statement → Prop} {step : Action (Workplace σ) α}
    {handle : Error → Action (Workplace σ) α}
    (sends : step.Sends kind) (handles : ∀ failure, (handle failure).Sends kind) :
    (recast step handle).Sends kind := by
  intro before
  obtain ⟨earlier, isEarlier, earlierKind⟩ := sends before
  rw [recast_apply]
  cases ran : step before with
  | mk result middle =>
      rw [ran] at isEarlier
      cases result with
      | ok value => exact ⟨earlier, isEarlier, earlierKind⟩
      | error failure =>
          dsimp only
          split
          · obtain ⟨later, isLater, laterKind⟩ := handles failure middle
            refine ⟨earlier ++ later, by rw [isLater, isEarlier, List.append_assoc], ?_⟩
            exact List.forall_mem_append.2 ⟨earlierKind, laterKind⟩
          · exact ⟨earlier, isEarlier, earlierKind⟩

/-- A step fails as its handler does, unless it was interrupted. -/
theorem failsLate_recast {ω : Type} {step : Action (UnitState ω) α}
    {handle : Error → Action (UnitState ω) α} (handles : ∀ failure, (handle failure).FailsLate) :
    (recast step handle).FailsLate := by
  intro before failure failed
  rw [recast_apply] at failed
  cases ran : step before with
  | mk result middle =>
      rw [ran] at failed
      cases result with
      | ok value => cases failed
      | error cause =>
          cases ordinary : cause.isOrdinary with
          | true =>
              dsimp only at failed
              rw [if_pos ordinary] at failed
              exact handles cause middle failure failed
          | false =>
              dsimp only at failed
              rw [if_neg (by simp [ordinary])] at failed
              cases failed
              rw [Error.eq_interrupted ordinary]
              rfl

end Recast

/-! ### Silence -/

/-- What is noted as something else than a statement is none. -/
theorem silent_noted {event : Event σ} (isOther : event.statement? = none) (action : Action σ α) :
    (UnitOfWork.lift (Journaled.noted event action)).Silent := by
  refine .of_same fun before => ?_
  change (before.world.journal ++ [event]).filterMap Event.statement? = Workplace.sent before
  rw [List.filterMap_append, List.filterMap_cons_none isOther, List.filterMap_nil,
    List.append_nil]
  rfl

theorem silent_quiet (action : Action σ α) : (UnitOfWork.lift (Journaled.quiet action)).Silent :=
  .of_same fun _ => rfl

theorem silent_requireSession : (requireSession : Action (Workplace σ) Unit).Silent := by
  refine .of_same fun before => ?_
  cases holds : before.holdsSession with
  | true => rw [requireSession_apply holds]
  | false => rw [requireSession_missing holds]

theorem silent_get : (get : Action (Workplace σ) (Workplace σ)).Silent :=
  .of_same fun _ => rfl

/-- Holding a session or not is nothing that is sent. -/
theorem silent_hold (change : Workplace σ → Bool) :
    (modify fun state => { state with holdsSession := change state } :
      Action (Workplace σ) PUnit).Silent :=
  .of_same fun _ => rfl

theorem silent_beginHeld : (beginHeld control.journaled).Silent := by
  refine silent_requireSession.bind fun _ => silent_get.bind fun state => ?_
  split
  · exact silent_noted rfl control.begin
  · exact .pure ()

theorem silent_openSession : (openSession control.journaled .created).Silent := by
  refine (silent_quiet control.create).bind fun present => ?_
  exact (silent_hold fun _ => present).bind fun _ => silent_beginHeld

theorem silent_enter : (enter control.journaled .created).Silent := by
  refine sends_recast silent_openSession fun failure => ?_
  split <;> exact .throw _

theorem silent_rollback : (rollback control.journaled).Silent := by
  refine sends_recast ?_ fun failure => .throw _
  refine silent_requireSession.bind fun _ => silent_get.bind fun state => ?_
  split
  · exact silent_noted rfl control.rollback
  · exact .pure ()

theorem silent_commit : (commit control.journaled).Silent := by
  refine sends_recast ?_ fun failure => ?_
  · exact silent_requireSession.bind fun _ => silent_noted rfl control.commit
  · refine (sends_recast silent_rollback fun _ => .pure ()).bind fun _ => ?_
    exact .throw _

theorem silent_release : (release control.journaled .created).Silent := by
  refine silent_get.bind fun state => ?_
  split
  · refine (sends_recast (silent_quiet control.close) fun _ => .throw _).lift_run.bind
      fun outcome => ?_
    exact (silent_hold fun _ => false).bind fun _ => .ofExcept outcome
  · exact .pure ()

theorem silent_leave (failure : Option Error) :
    (leave control.journaled .created failure).Silent := by
  have ending : (endTransaction control.journaled failure).Silent := by
    unfold endTransaction
    split
    · exact silent_commit
    · exact silent_rollback
  exact ending.lift_run.bind fun outcome => silent_release.bind fun _ => .ofExcept outcome

/-! ### Failures -/

section Failures

variable {ω : Type} (control : SessionControl ω)

theorem failsLate_enter (source : SessionSource) : (enter control source).FailsLate := by
  refine failsLate_recast fun failure => ?_
  split
  case h_1 isUnit => exact .throw (by simp [Error.isPlanning, isUnit])
  case h_2 isManagement => exact .throw (by simp [Error.isPlanning, isManagement])
  case h_3 => exact .throw rfl

theorem failsLate_endTransaction (failure : Option Error) :
    (endTransaction control failure).FailsLate := by
  unfold endTransaction
  split
  · refine failsLate_recast fun _ => FailsOnly.bind ?_ fun _ => .throw rfl
    exact failsLate_recast fun _ => .pure ()
  · exact failsLate_recast fun _ => .throw rfl

theorem failsLate_release : (release control .created).FailsLate := by
  intro before failure failed
  cases holds : before.holdsSession with
  | true =>
      have closing : (recast (UnitOfWork.lift control.close)
          fun failure => throw (.closeFailed failure.message)).FailsLate :=
        failsLate_recast fun _ => .throw rfl
      rw [release_created holds] at failed
      exact closing before failure failed
  | false =>
      unfold release at failed
      rw [Action.bind_of_ok (Action.get_apply _), holds] at failed
      cases failed

theorem failsLate_leave (failure : Option Error) :
    (leave control .created failure).FailsLate := by
  intro before other failed
  rw [leave_apply] at failed
  have releaseFails := failsLate_release control (endTransaction control failure before).2
  split at failed
  · exact failsLate_endTransaction control failure before other failed
  · rename_i cause after released
    rw [released] at releaseFails
    exact releaseFails other failed

end Failures

end UnitOfWork

/-! ## Scopes -/

/-- Whether a scope is entered and left without a statement, and with no error of planning. -/
structure Scope.Discreet {σ : Type} (scope : Scope (Workplace σ)) : Prop where
  enter : scope.enter.Silent
  leave : ∀ failure, (scope.leave failure).Silent
  enterFails : scope.enter.FailsLate
  leaveFails : ∀ failure, (scope.leave failure).FailsLate

namespace Scope

open RecordGraph.Action

variable {σ α : Type} {scope : Scope (Workplace σ)} {body : Action (Workplace σ) α}

theorem discreet_entered : (Scope.entered : Scope (Workplace σ)).Discreet where
  enter := .pure ()
  leave _ := .pure ()
  enterFails := .pure ()
  leaveFails _ := .pure ()

/-- A unit of work is discreet, whatever its transaction control does. -/
theorem discreet_unitScope (control : SessionControl σ) : (unitScope control).Discreet where
  enter := (Sends.of_same fun _ => rfl).bind fun _ => UnitOfWork.silent_enter
  leave := UnitOfWork.silent_leave
  enterFails := by
    refine FailsOnly.bind ?_ fun _ => UnitOfWork.failsLate_enter _ _
    exact fun _ _ impossible => nomatch impossible
  leaveFails := UnitOfWork.failsLate_leave _

/-- What fails in a scope that was entered is its body, or leaving it. -/
theorem within_eq_error {ω : Type} {scope : Scope ω} {body : Action ω α} {before entered after : ω}
    {failure : Error} (enterRan : scope.enter before = (.ok (), entered))
    (ran : scope.within body before = (.error failure, after)) :
    (body entered).1 = .error failure ∨
      ∃ cause world, (scope.leave cause world).1 = .error failure := by
  unfold within at ran
  rw [bind_of_ok enterRan, bind_of_ok (lift_run_apply _ _)] at ran
  cases bodyRan : (body entered).1 with
  | ok value =>
      rw [bodyRan] at ran
      refine Or.inr ⟨none, (body entered).2, ?_⟩
      cases leaveRan : scope.leave none (body entered).2 with
      | mk result left =>
          dsimp only at ran
          cases result with
          | ok _ =>
              rw [bind_of_ok leaveRan] at ran
              cases ran
          | error other =>
              rw [bind_of_error leaveRan] at ran
              cases ran
              rfl
  | error cause =>
      rw [bodyRan] at ran
      cases leaveRan : scope.leave (some cause) (body entered).2 with
      | mk result left =>
          dsimp only at ran
          cases result with
          | ok _ =>
              rw [bind_of_ok leaveRan] at ran
              cases ran
              exact Or.inl rfl
          | error other =>
              rw [bind_of_error leaveRan] at ran
              cases ran
              exact Or.inr ⟨some cause, (body entered).2, by rw [leaveRan]⟩

/-- An error of planning that leaves a discreet scope is that of its body, which has sent all that
was sent. -/
theorem Discreet.of_planning_error (discreet : scope.Discreet) {before after : Workplace σ}
    {failure : Error} (isPlanning : failure.isPlanning = true)
    (ran : scope.within body before = (.error failure, after)) :
    ∃ entered left, Workplace.sent entered = Workplace.sent before ∧
      body entered = (.error failure, left) ∧ Workplace.sent after = Workplace.sent left := by
  have notLate : failure.isPlanning ≠ false := by simp [isPlanning]
  cases enterRan : scope.enter before with
  | mk result entered =>
      have silent := discreet.enter.sent before
      have fails := discreet.enterFails before
      rw [enterRan] at silent fails
      cases result with
      | error refused =>
          rw [within_of_refused enterRan] at ran
          cases ran
          exact absurd (fails failure rfl) notLate
      | ok _ =>
          have leaves : (scope.within body before).2 = _ := within_state enterRan
          rw [ran] at leaves
          refine ⟨entered, (body entered).2, silent, ?_, ?_⟩
          · rcases within_eq_error enterRan ran with bodyFailed | ⟨cause, world, leaveFailed⟩
            · exact Prod.ext bodyFailed rfl
            · exact absurd (discreet.leaveFails cause world failure leaveFailed) notLate
          · exact (congrArg Workplace.sent leaves).trans ((discreet.leave _).sent _)

end Scope

/-! ## Executors -/

section Executors

variable {σ : Type}

/-- Whether the failures of a session that are none of the database's are no errors of planning. -/
def Session.FailsLate (session : Session σ) : Prop :=
  ∀ statement world failure,
    (session.run statement world).1 = .refused (.other failure) → failure.isPlanning = false

/-- Whether a statement selects. -/
def Sql.Statement.IsSelection (statement : Statement) : Prop :=
  statement ∈ Set.range Statement.select

/-- Whether the queries of an executor are sent as they are, and fail with no error of planning. -/
structure Executor.Selects (executor : Executor (Workplace σ)) : Prop where
  sends : ∀ query, (executor.fetchAll query).Sends Statement.IsSelection
  /-- A query whose rows are there has been sent. -/
  sent : ∀ {query rows before after}, executor.fetchAll query before = (.ok rows, after) →
    Workplace.sent after = Workplace.sent before ++ [.select query]
  late : ∀ query, (executor.fetchAll query).FailsLate

namespace Executor

variable {session : Session σ} {cancel : Option (Workplace σ → Bool)} {statement : Statement}

/-- The outcome of a statement, once it has been sent. -/
theorem issue_journaled (before : Workplace σ) :
    issue session.journaled.inUnit cancel statement before = (.error .cancelledBefore, before) ∨
      ((issue session.journaled.inUnit cancel statement before).1 =
          outcomeOf (session.run statement before.world.world).1 ∧
        Workplace.sent (issue session.journaled.inUnit cancel statement before).2 =
          Workplace.sent before ++ [statement]) := by
  unfold issue
  split
  · exact Or.inl rfl
  · refine Or.inr ⟨rfl, ?_⟩
    exact List.filterMap_append ..

theorem sends_issue {query : Select} :
    (issue session.journaled.inUnit cancel (.select query)).Sends Statement.IsSelection := by
  intro before
  rcases issue_journaled before with cancelled | ⟨_, sent⟩
  · rw [cancelled]
    exact ⟨[], (List.append_nil _).symm, fun _ member => absurd member List.not_mem_nil⟩
  · exact ⟨[.select query], sent, List.forall_mem_singleton.2 ⟨query, rfl⟩⟩

theorem failsLate_issue (late : session.FailsLate) :
    (issue session.journaled.inUnit cancel statement).FailsLate := by
  intro before failure failed
  rcases issue_journaled before with cancelled | ⟨outcome, _⟩
  · rw [cancelled] at failed
    cases failed
    rfl
  · rw [outcome] at failed
    cases reply : (session.run statement before.world.world).1 with
    | done cursor =>
        rw [reply] at failed
        cases failed
    | overtaken =>
        rw [reply] at failed
        cases failed
        rfl
    | refused refusal =>
        rw [reply] at failed
        cases failed
        cases refusal with
        | integrity message state code =>
            dsimp only [Refusal.toError]
            split <;> rfl
        | database message => rfl
        | other error => exact late statement _ error reply

theorem sent_of_fetchAll {query : Select} {rows : List Record} {before after : Workplace σ}
    (ran : (ofSession session.journaled.inUnit cancel).fetchAll query before = (.ok rows, after)) :
    Workplace.sent after = Workplace.sent before ++ [.select query] := by
  obtain ⟨cursor, middle, issued, finished⟩ := Action.bind_eq_ok.1 ran
  cases finished
  rcases issue_journaled before with cancelled | ⟨_, sent⟩
  · rw [cancelled] at issued
    cases issued
  · rw [issued] at sent
    exact sent

theorem selects_ofSession (late : session.FailsLate) (cancel : Option (Workplace σ → Bool)) :
    (ofSession session.journaled.inUnit cancel).Selects where
  sends _ := sends_issue.bind fun cursor => .pure cursor.rows
  sent := sent_of_fetchAll
  late _ := (failsLate_issue late).bind fun cursor => .pure cursor.rows

end Executor

end Executors

end RecordGraph
