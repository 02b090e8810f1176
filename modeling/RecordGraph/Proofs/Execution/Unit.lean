import RecordGraph.Proofs.Execution.Course

/-!
Contract: the transaction around the statements of one operation.

Owns: the beginning, the commit and the rollback of a unit of work over a session that keeps its
promises, and what a whole operation does to the stored data.
Does not own: the operations.
-/

namespace RecordGraph

open RecordGraph.Sql

variable {σ Data : Type} {control : SessionControl σ} {session : Session σ}

/-- The scope of a unit of work over a journaled session. -/
def unitScope (control : SessionControl σ) : Scope (Workplace σ) :=
  Scope.ofControl control.journaled

/-! ## Evaluation -/

namespace UnitOfWork

variable {ω α : Type}

theorem lift_apply (action : Action ω α) (state : UnitState ω) :
    UnitOfWork.lift action state =
      ((action state.world).1, { state with world := (action state.world).2 }) :=
  rfl

/-- Lifting an action that leaves no trace. -/
theorem lift_quiet {action : Action σ α} {state : Workplace σ} {value : α} {after : σ}
    (ran : action state.world.world = (.ok value, after)) :
    UnitOfWork.lift (Journaled.quiet action) state =
      (.ok value, ⟨⟨after, state.world.journal⟩, state.holdsSession⟩) := by
  rw [lift_apply]
  unfold Journaled.quiet
  rw [ran]

/-- Lifting an action that is noted. -/
theorem lift_noted (event : Event σ) {action : Action σ α} {state : Workplace σ} {value : α}
    {after : σ} (ran : action state.world.world = (.ok value, after)) :
    UnitOfWork.lift (Journaled.noted event action) state =
      (.ok value, ⟨⟨after, state.world.journal ++ [event]⟩, state.holdsSession⟩) := by
  rw [lift_apply]
  unfold Journaled.noted
  rw [ran]

theorem recast_of_ok {action : Action (UnitState ω) α} {handle : Error → Action (UnitState ω) α}
    {before after : UnitState ω} {value : α} (ran : action before = (.ok value, after)) :
    recast action handle before = (.ok value, after) := by
  unfold recast
  simp only [tryCatch, tryCatchThe, MonadExceptOf.tryCatch, ExceptT.tryCatch, ExceptT.mk, bind,
    StateT.bind]
  rw [ran]
  rfl

theorem requireSession_apply {state : UnitState ω} (holds : state.holdsSession = true) :
    requireSession state = (.ok (), state) := by
  change (if state.holdsSession = true then (pure () : Action (UnitState ω) Unit)
    else throw .sessionMissing) state = _
  rw [if_pos holds]
  rfl

end UnitOfWork

/-! ## Beginning -/

theorem enter_unit (laws : Transactional control session Data) {state : Workplace σ}
    (closed : control.inTransaction state.world.world = false) :
    ∃ after, (unitScope control).enter state = (.ok (), after) ∧ Opened control after ∧
      laws.stored after.world.world = laws.stored state.world.world ∧
        laws.current after.world.world = laws.stored state.world.world ∧
          after.world.journal = state.world.journal ++ [.begun] := by
  rcases laws.create state.world.world closed with ⟨created, createOk, stillClosed, createStored⟩
  rcases laws.begin created stillClosed with ⟨begun, beginOk, isOpen, beginStored, beginCurrent⟩
  refine ⟨⟨⟨begun, state.world.journal ++ [.begun]⟩, true⟩, ?_, ⟨rfl, isOpen⟩,
    beginStored.trans createStored, beginCurrent.trans createStored, rfl⟩
  have createRan : UnitOfWork.lift control.journaled.create
      (UnitOfWork.start .created state.world) =
        (.ok true, ⟨⟨created, state.world.journal⟩, false⟩) := UnitOfWork.lift_quiet createOk
  have beginRan : UnitOfWork.lift control.journaled.begin
      (⟨⟨created, state.world.journal⟩, true⟩ : Workplace σ) =
        (.ok (), ⟨⟨begun, state.world.journal ++ [.begun]⟩, true⟩) :=
    UnitOfWork.lift_noted .begun beginOk
  have opened : UnitOfWork.openSession control.journaled .created
      (UnitOfWork.start .created state.world) =
        (.ok (), ⟨⟨begun, state.world.journal ++ [.begun]⟩, true⟩) := by
    unfold UnitOfWork.openSession
    rw [if_pos rfl]
    refine (Action.bind_of_ok createRan).trans ?_
    refine (Action.bind_of_ok (Action.modify_apply _ _)).trans ?_
    refine (Action.bind_of_ok (UnitOfWork.requireSession_apply rfl)).trans ?_
    refine (Action.bind_of_ok (Action.get_apply _)).trans ?_
    have isClosed : (!control.inTransaction created) = true := by rw [stillClosed]; rfl
    exact (congrFun (if_pos isClosed) _).trans beginRan
  change (UnitOfWork.enter control.journaled .created) (UnitOfWork.start .created state.world) = _
  exact UnitOfWork.recast_of_ok opened

/-! ## Ending -/

/-- Closing the session of a unit of work leaves the stored data and the journal alone. -/
theorem release_unit (laws : Transactional control session Data) {state : Workplace σ}
    (holds : state.holdsSession = true) :
    ∃ after, UnitOfWork.release control.journaled .created state = (.ok (), after) ∧
      laws.stored after.world.world = laws.stored state.world.world ∧
        after.world.journal = state.world.journal := by
  rcases laws.close state.world.world with ⟨closed, closeOk, closeStored⟩
  refine ⟨⟨⟨closed, state.world.journal⟩, false⟩, ?_, closeStored, rfl⟩
  have closeRan : UnitOfWork.lift control.journaled.close state =
      (.ok (), ⟨⟨closed, state.world.journal⟩, state.holdsSession⟩) :=
    UnitOfWork.lift_quiet closeOk
  unfold UnitOfWork.release
  refine (Action.bind_of_ok (Action.get_apply _)).trans ?_
  have isHeld : (decide (SessionSource.created = SessionSource.created) &&
      state.holdsSession) = true := by
    rw [holds]
    rfl
  refine (congrFun (if_pos isHeld) _).trans ?_
  refine (Action.bind_of_ok (Action.lift_run_apply _ _)).trans ?_
  rw [UnitOfWork.recast_of_ok closeRan]
  rfl

/-- A unit of work whose transaction has been ended is left with its session closed. -/
theorem leave_of_ended (laws : Transactional control session Data) {failure : Option Error}
    {state middle : Workplace σ}
    (ended : (if failure.isNone then UnitOfWork.commit control.journaled
      else UnitOfWork.rollback control.journaled) state = (.ok (), middle))
    (holds : middle.holdsSession = true) :
    ∃ after, (unitScope control).leave failure state = (.ok (), after) ∧
      laws.stored after.world.world = laws.stored middle.world.world ∧
        after.world.journal = middle.world.journal := by
  rcases release_unit laws holds with ⟨after, releaseOk, releaseStored, releaseJournal⟩
  refine ⟨after, ?_, releaseStored, releaseJournal⟩
  change UnitOfWork.leave control.journaled .created failure state = _
  unfold UnitOfWork.leave
  refine (Action.bind_of_ok (Action.lift_run_apply _ _)).trans ?_
  rw [ended]
  exact (Action.bind_of_ok releaseOk).trans rfl

/-- Leaving after a success commits. -/
theorem leave_after_success (laws : Transactional control session Data) {state : Workplace σ}
    (opened : Opened control state) :
    ∃ after, (unitScope control).leave none state = (.ok (), after) ∧
      laws.stored after.world.world = laws.current state.world.world ∧
        after.world.journal = state.world.journal ++ [.committed] := by
  rcases laws.commit state.world.world opened.transaction with ⟨committed, commitOk, commitStored⟩
  have commitRan : UnitOfWork.lift control.journaled.commit state =
      (.ok (), ⟨⟨committed, state.world.journal ++ [.committed]⟩, state.holdsSession⟩) :=
    UnitOfWork.lift_noted .committed commitOk
  have ended : UnitOfWork.commit control.journaled state =
      (.ok (), ⟨⟨committed, state.world.journal ++ [.committed]⟩, state.holdsSession⟩) := by
    apply UnitOfWork.recast_of_ok
    exact (Action.bind_of_ok (UnitOfWork.requireSession_apply opened.holds)).trans commitRan
  rcases @leave_of_ended _ _ _ _ laws none _ _ ended opened.holds with
    ⟨after, left, afterStored, afterJournal⟩
  exact ⟨after, left, afterStored.trans commitStored, afterJournal⟩

/-- Leaving after a failure rolls back. -/
theorem leave_after_failure (laws : Transactional control session Data) {state : Workplace σ}
    (opened : Opened control state) (failure : Error) :
    ∃ after, (unitScope control).leave (some failure) state = (.ok (), after) ∧
      laws.stored after.world.world = laws.stored state.world.world ∧
        after.world.journal = state.world.journal ++ [.rolledBack] := by
  rcases laws.rollback state.world.world opened.transaction with
    ⟨restored, rollbackOk, rollbackStored⟩
  have rollbackRan : UnitOfWork.lift control.journaled.rollback state =
      (.ok (), ⟨⟨restored, state.world.journal ++ [.rolledBack]⟩, state.holdsSession⟩) :=
    UnitOfWork.lift_noted .rolledBack rollbackOk
  have ended : UnitOfWork.rollback control.journaled state =
      (.ok (), ⟨⟨restored, state.world.journal ++ [.rolledBack]⟩, state.holdsSession⟩) := by
    apply UnitOfWork.recast_of_ok
    refine (Action.bind_of_ok (UnitOfWork.requireSession_apply opened.holds)).trans ?_
    refine (Action.bind_of_ok (Action.get_apply _)).trans ?_
    exact (congrFun (if_pos opened.transaction) _).trans rollbackRan
  rcases @leave_of_ended _ _ _ _ laws (some failure) _ _ ended opened.holds with
    ⟨after, left, afterStored, afterJournal⟩
  exact ⟨after, left, afterStored.trans rollbackStored, afterJournal⟩

/-! ## Whole operations -/

/-- What an operation with a unit of work of its own does: everything or nothing. -/
structure AllOrNothing {α : Type} (laws : Transactional control session Data)
    (cancel : Option (σ → Bool)) (expected : α → List Statement → Prop)
    (before : Workplace σ) (result : Except Error α) (after : Workplace σ) : Prop where
  /-- A failure leaves the stored data as they were, and nothing was committed. -/
  failed : ∀ failure, result = .error failure →
    laws.stored after.world.world = laws.stored before.world.world ∧
      ∃ events, after.world.journal = before.world.journal ++ events ∧
        ∀ event ∈ events, event ≠ .committed
  /-- A success is one transaction: its statements all succeeded, and then it was committed. -/
  succeeded : ∀ value, result = .ok value → ∃ issues : List (Issue σ),
    after.world.journal =
      before.world.journal ++ .begun :: issues.map Event.issued ++ [.committed] ∧
    (∀ issue ∈ issues, ∃ cursor, issue.reply = .done cursor) ∧
    Effects laws.Effect (issues.map Issue.statement) (laws.stored before.world.world)
      (laws.stored after.world.world) ∧
    expected value (issues.map Issue.statement)
  willing : ∃ events, after.world.journal = before.world.journal ++ events ∧
    ∀ issue, .issued issue ∈ events → Executor.isCancelled cancel issue.before = false

section Within

variable {α : Type} {laws : Transactional control session Data} {cancel : Option (σ → Bool)}
variable {expected : α → List Statement → Prop} {body : Action (Workplace σ) α}
variable {issues : List (Issue σ)} {before entered middle : Workplace σ}

/-- Between its beginning and its end, a unit of work issues nothing once it is cancelled. -/
theorem Course.willing_between {last : Event σ}
    (course : Course laws cancel entered issues middle)
    (isEnd : ∀ issue, last ≠ .issued issue) :
    ∀ issue, .issued issue ∈ Event.begun :: issues.map Event.issued ++ [last] →
      Executor.isCancelled cancel issue.before = false := by
  intro issue member
  rcases List.mem_append.1 member with member | member
  · rcases List.mem_cons.1 member with impossible | member
    · cases impossible
    · obtain ⟨given, isIssue, same⟩ := List.mem_map.1 member
      cases same
      exact course.willing issue isIssue
  · exact absurd (List.mem_singleton.1 member).symm (isEnd issue)

/-- What is journaled of a body between a beginning and an end. -/
theorem Course.journal_between (course : Course laws cancel entered issues middle)
    (begun : entered.world.journal = before.world.journal ++ [.begun]) (last : Event σ) :
    middle.world.journal ++ [last] =
      before.world.journal ++ (Event.begun :: issues.map Event.issued ++ [last]) := by
  rw [course.journal, begun]
  simp

/-- A body that succeeds is committed. -/
theorem allOrNothing_of_ok {value : α} (opened : Opened control entered)
    (enterRan : (unitScope control).enter before = (.ok (), entered))
    (current : laws.current entered.world.world = laws.stored before.world.world)
    (begun : entered.world.journal = before.world.journal ++ [.begun])
    (bodyRan : body entered = (.ok value, middle))
    (course : Course laws cancel entered issues middle)
    (completes : Completes laws entered issues middle)
    (isExpected : expected value (issues.map Issue.statement)) :
    AllOrNothing laws cancel expected before ((unitScope control).within body before).1
      ((unitScope control).within body before).2 := by
  rcases leave_after_success laws (course.kept opened).1 with
    ⟨after, leaveRan, leaveStored, leaveJournal⟩
  have journal := leaveJournal.trans (course.journal_between begun .committed)
  rw [Scope.within_of_ok enterRan bodyRan leaveRan]
  refine ⟨fun _ impossible => ?_, fun given ok => ?_, _, journal, course.willing_between ?_⟩
  · cases impossible
  · cases ok
    refine ⟨issues, by simp [journal], completes.done, ?_, isExpected⟩
    rw [← current, leaveStored]
    exact completes.effects opened
  · intro issue impossible
    cases impossible

/-- A body that fails is rolled back. -/
theorem allOrNothing_of_error {failure : Error} (opened : Opened control entered)
    (enterRan : (unitScope control).enter before = (.ok (), entered))
    (stored : laws.stored entered.world.world = laws.stored before.world.world)
    (begun : entered.world.journal = before.world.journal ++ [.begun])
    (bodyRan : body entered = (.error failure, middle))
    (course : Course laws cancel entered issues middle) :
    AllOrNothing laws cancel expected before ((unitScope control).within body before).1
      ((unitScope control).within body before).2 := by
  have kept := course.kept opened
  rcases leave_after_failure laws kept.1 failure with ⟨after, leaveRan, leaveStored, leaveJournal⟩
  have journal := leaveJournal.trans (course.journal_between begun .rolledBack)
  rw [Scope.within_of_error enterRan bodyRan leaveRan]
  refine ⟨fun _ _ => ⟨?_, _, journal, ?_⟩, fun given impossible => ?_, _, journal,
    course.willing_between ?_⟩
  · rw [leaveStored, kept.2, stored]
  · intro event member isCommitted
    rw [isCommitted] at member
    rcases List.mem_append.1 member with member | member
    · rcases List.mem_cons.1 member with impossible | member
      · cases impossible
      · obtain ⟨issue, _, impossible⟩ := List.mem_map.1 member
        cases impossible
    · cases List.mem_singleton.1 member
  · cases impossible
  · intro issue impossible
    cases impossible

/-- A body that only issues statements is all or nothing in a unit of work of its own. -/
theorem allOrNothing_within (runs : Runs laws cancel body expected)
    (closed : control.inTransaction before.world.world = false) :
    AllOrNothing laws cancel expected before ((unitScope control).within body before).1
      ((unitScope control).within body before).2 := by
  rcases enter_unit laws closed with ⟨entered, enterRan, opened, stored, current, begun⟩
  rcases runs entered with ⟨issues, course, succeeds⟩
  cases bodyRan : body entered with
  | mk result middle =>
      rw [bodyRan] at course succeeds
      cases result with
      | ok value =>
          have completed := succeeds value rfl
          exact allOrNothing_of_ok opened enterRan current begun bodyRan course completed.1
            completed.2
      | error failure => exact allOrNothing_of_error opened enterRan stored begun bodyRan course

/-- A body that succeeded in a unit of work saw the stored data, and what it left was committed. -/
theorem within_unit_eq_ok {value : α} {after : Workplace σ}
    (laws : Transactional control session Data)
    (closed : control.inTransaction before.world.world = false)
    (ran : (unitScope control).within body before = (.ok value, after)) :
    ∃ entered middle, Opened control entered ∧
      laws.current entered.world.world = laws.stored before.world.world ∧
        body entered = (.ok value, middle) ∧
          (Opened control middle →
            laws.stored after.world.world = laws.current middle.world.world) := by
  obtain ⟨entered, middle, enterRan, bodyRan, leaveRan⟩ := Scope.within_eq_ok ran
  obtain ⟨entered', enterRan', opened, _, current, _⟩ := enter_unit laws closed
  rw [enterRan] at enterRan'
  cases enterRan'
  refine ⟨entered, middle, opened, current, bodyRan, fun stillOpen => ?_⟩
  obtain ⟨after', leaveRan', stored, _⟩ := leave_after_success laws stillOpen
  rw [leaveRan] at leaveRan'
  cases leaveRan'
  exact stored

/-- A body that succeeds on the stored data succeeds in a unit of work. -/
theorem within_unit_of_ok {isGood : α → Prop} (laws : Transactional control session Data)
    (closed : control.inTransaction before.world.world = false)
    (succeeds : ∀ entered, Opened control entered →
      laws.current entered.world.world = laws.stored before.world.world →
        ∃ value middle, body entered = (.ok value, middle) ∧ Opened control middle ∧ isGood value) :
    ∃ value after, (unitScope control).within body before = (.ok value, after) ∧ isGood value := by
  obtain ⟨entered, enterRan, opened, _, current, _⟩ := enter_unit laws closed
  obtain ⟨value, middle, bodyRan, stillOpen, good⟩ := succeeds entered opened current
  obtain ⟨after, leaveRan, _, _⟩ := leave_after_success laws stillOpen
  exact ⟨value, after, Scope.within_of_ok enterRan bodyRan leaveRan, good⟩

end Within

theorem AllOrNothing.map {α β : Type} {laws : Transactional control session Data}
    {cancel : Option (σ → Bool)} {expected : β → List Statement → Prop} {finish : α → β}
    {before after : Workplace σ} {result : Except Error α}
    (outcome : AllOrNothing laws cancel (fun value statements => expected (finish value) statements)
      before result after) :
    AllOrNothing laws cancel expected before (result.map finish) after where
  failed := by
    intro failure failed
    cases result with
    | error failure => exact outcome.failed failure rfl
    | ok value => cases failed
  succeeded := by
    intro value succeeded
    cases result with
    | error failure => cases succeeded
    | ok value =>
        cases succeeded
        exact outcome.succeeded value rfl
  willing := outcome.willing

/-- A failure before anything has reached the session. -/
theorem AllOrNothing.of_error {α : Type} (laws : Transactional control session Data)
    (cancel : Option (σ → Bool)) (expected : α → List Statement → Prop) (state : Workplace σ)
    (failure : Error) : AllOrNothing laws cancel expected state (.error failure) state where
  failed := by
    intro _ _
    refine ⟨rfl, [], (List.append_nil _).symm, fun event member => ?_⟩
    exact absurd member List.not_mem_nil
  succeeded := by
    intro value impossible
    cases impossible
  willing :=
    ⟨[], (List.append_nil _).symm, fun issue member => absurd member List.not_mem_nil⟩

/-! ## The form of an operation -/

/-- A body in the scope that there is. -/
def Scope.around {ω α : Type} (scope : Option (Scope ω)) (body : Action ω α) : Action ω α :=
  match scope with
  | none => throw .noUnitOfWork
  | some scope => scope.within body

/-- Whether an operation is refused without looking at the world, or else is one body that only
issues statements, in its scope, with nothing but a computation on its value afterwards. -/
inductive Scoped {α : Type} (laws : Transactional control session Data)
    (cancel : Option (σ → Bool)) (expected : α → List Statement → Prop)
    (scope : Option (Scope (Workplace σ))) (operation : Action (Workplace σ) α) : Prop where
  | refused (failure : Error) (refuses : operation = throw failure)
  | runs {β : Type} (body : Action (Workplace σ) β) (finish : β → α)
      (runs : Runs laws cancel body fun value statements => expected (finish value) statements)
      (runsIn : operation = finish <$> Scope.around scope body)

section Form

variable {α : Type} {laws : Transactional control session Data} {cancel : Option (σ → Bool)}
variable {expected : α → List Statement → Prop}

/-- With a unit of work of its own, or without any, an operation is all or nothing. -/
theorem Scoped.allOrNothing {hasFactory : Bool} {operation : Action (Workplace σ) α}
    (form : Scoped laws cancel expected
      (if hasFactory then some (unitScope control) else none) operation)
    {before : Workplace σ} (closed : control.inTransaction before.world.world = false) :
    AllOrNothing laws cancel expected before (operation before).1 (operation before).2 := by
  cases form with
  | refused failure refuses =>
      rw [refuses]
      exact .of_error laws cancel expected before failure
  | runs body finish runs runsIn =>
      rw [runsIn, Action.map_apply]
      cases hasFactory with
      | false => exact .of_error laws cancel expected before .noUnitOfWork
      | true => exact (allOrNothing_within runs closed).map

/-- In the caller's unit of work, an operation only issues statements. -/
theorem Scoped.borrowed {operation : Action (Workplace σ) α}
    (form : Scoped laws cancel expected (some Scope.entered) operation) :
    Runs laws cancel operation expected := by
  cases form with
  | refused failure refuses =>
      rw [refuses]
      exact .throw failure expected
  | runs body finish runs runsIn =>
      have same : Scope.around (some Scope.entered) body = body := Scope.entered_within body
      rw [runsIn, same]
      intro before
      rcases runs before with ⟨issues, course, succeeds⟩
      rw [Action.map_apply]
      refine ⟨issues, course, fun value ok => ?_⟩
      cases ran : (body before).1 with
      | error failure =>
          rw [ran] at ok
          cases ok
      | ok given =>
          rw [ran] at ok
          cases ok
          exact succeeds given ran

end Form

end RecordGraph
