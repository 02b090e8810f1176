import RecordGraph.Proofs.Execution.Journal

/-!
Contract: what actions do to a session that they only give statements to.

Owns: `Course`, `Runs`, and their composition: of steps, of walks through lists, and of the calls of
an executor.
Does not own: the beginning and the end of transactions.

`Runs` says of an action, whatever its outcome, that nothing but statements reaches the session, so
that an open transaction stays open and the stored data stay as they are. Of a successful action it
says that all of its statements succeeded. It is closed under composition, so that the operations of
a repository have it because the executor has it.
-/

namespace RecordGraph

open RecordGraph.Sql

variable {σ Data : Type} {control : SessionControl σ} {session : Session σ}

/-- The world of an operation: the caller's world, its journal, and the unit of work. -/
abbrev Workplace (σ : Type) := UnitState (Journaled σ)

/-- A cancel event of the caller's world. -/
def watched (cancel : Option (σ → Bool)) : Option (Workplace σ → Bool) :=
  cancel.map fun isSet state => isSet state.world.world

/-- The executor of a unit of work over a journaled session. -/
def unitExecutor (session : Session σ) (cancel : Option (σ → Bool)) : Executor (Workplace σ) :=
  Executor.ofSession session.journaled.inUnit (watched cancel)

/-- Whether a unit of work holds a session with an open transaction. -/
structure Opened (control : SessionControl σ) (state : Workplace σ) : Prop where
  holds : state.holdsSession = true
  transaction : control.inTransaction state.world.world = true

/-- What lies between two states if only statements are issued. -/
structure Course (laws : Transactional control session Data) (cancel : Option (σ → Bool))
    (before : Workplace σ) (issues : List (Issue σ)) (after : Workplace σ) : Prop where
  journal : after.world.journal = before.world.journal ++ issues.map Event.issued
  /-- No statement is issued once the cancel event is set. -/
  willing : ∀ issue ∈ issues, Executor.isCancelled cancel issue.before = false
  /-- An open transaction stays open and keeps its changes to itself. -/
  kept : Opened control before →
    Opened control after ∧ laws.stored after.world.world = laws.stored before.world.world

/-- Whether all statements succeeded, each with its effect on the data of an open transaction. -/
structure Completes (laws : Transactional control session Data) (before : Workplace σ)
    (issues : List (Issue σ)) (after : Workplace σ) : Prop where
  done : ∀ issue ∈ issues, ∃ cursor, issue.reply = .done cursor
  effects : Opened control before → Effects laws.Effect (issues.map Issue.statement)
    (laws.current before.world.world) (laws.current after.world.world)

/-- Whether an action only issues statements, and, if it succeeds, gives a value and statements that
are as expected. -/
def Runs {α : Type} (laws : Transactional control session Data) (cancel : Option (σ → Bool))
    (action : Action (Workplace σ) α) (expected : α → List Statement → Prop) : Prop :=
  ∀ before, ∃ issues, Course laws cancel before issues (action before).2 ∧
    ∀ value, (action before).1 = .ok value →
      Completes laws before issues (action before).2 ∧ expected value (issues.map Issue.statement)

/-- Whether an action only issues statements. -/
abbrev Issues {α : Type} (laws : Transactional control session Data) (cancel : Option (σ → Bool))
    (action : Action (Workplace σ) α) : Prop :=
  Runs laws cancel action fun _ _ => True

section Composition

variable {laws : Transactional control session Data} {cancel : Option (σ → Bool)} {α β : Type}

theorem Course.refl (state : Workplace σ) : Course laws cancel state [] state where
  journal := (List.append_nil _).symm
  willing := fun _ member => absurd member List.not_mem_nil
  kept := fun opened => ⟨opened, rfl⟩

theorem Course.trans {first second last : Workplace σ} {earlier later : List (Issue σ)}
    (left : Course laws cancel first earlier second)
    (right : Course laws cancel second later last) :
    Course laws cancel first (earlier ++ later) last where
  journal := by rw [right.journal, left.journal, List.map_append, List.append_assoc]
  willing := by
    intro issue member
    rcases List.mem_append.1 member with member | member
    · exact left.willing issue member
    · exact right.willing issue member
  kept := by
    intro opened
    have kept := left.kept opened
    have kept' := right.kept kept.1
    exact ⟨kept'.1, kept'.2.trans kept.2⟩

theorem Completes.refl (state : Workplace σ) : Completes laws state [] state where
  done := fun _ member => absurd member List.not_mem_nil
  effects := fun _ => .nil _

theorem Completes.trans {first second last : Workplace σ} {earlier later : List (Issue σ)}
    (course : Course laws cancel first earlier second)
    (left : Completes laws first earlier second) (right : Completes laws second later last) :
    Completes laws first (earlier ++ later) last where
  done := by
    intro issue member
    rcases List.mem_append.1 member with member | member
    · exact left.done issue member
    · exact right.done issue member
  effects := by
    intro opened
    rw [List.map_append]
    exact (left.effects opened).append (right.effects (course.kept opened).1)

theorem Runs.mono {action : Action (Workplace σ) α} {expected expected' : α → List Statement → Prop}
    (runs : Runs laws cancel action expected)
    (weaker : ∀ value statements, expected value statements → expected' value statements) :
    Runs laws cancel action expected' := by
  intro before
  rcases runs before with ⟨issues, course, succeeds⟩
  refine ⟨issues, course, fun value ok => ?_⟩
  have completed := succeeds value ok
  exact ⟨completed.1, weaker value _ completed.2⟩

theorem Runs.pure (value : α) :
    Runs laws cancel (Pure.pure value) fun given statements => given = value ∧ statements = [] := by
  intro before
  refine ⟨[], .refl before, fun given ok => ⟨.refl before, ?_, rfl⟩⟩
  exact (Except.ok.inj ok).symm

/-- A computation that needs no world issues no statement. -/
theorem Runs.ofExcept (result : Result α) :
    Runs laws cancel (MonadExcept.ofExcept result) fun given statements =>
      result = .ok given ∧ statements = [] := by
  intro before
  rw [Action.ofExcept_apply]
  refine ⟨[], .refl before, fun given ok => ⟨.refl before, ok, rfl⟩⟩

theorem Runs.throw (failure : Error) (expected : α → List Statement → Prop) :
    Runs laws cancel (throw failure) expected := by
  intro before
  refine ⟨[], .refl before, fun given impossible => ?_⟩
  cases impossible

theorem Runs.bind {action : Action (Workplace σ) α} {next : α → Action (Workplace σ) β}
    {first : α → List Statement → Prop} {second : α → β → List Statement → Prop}
    (head : Runs laws cancel action first)
    (tail : ∀ value, Runs laws cancel (next value) (second value)) :
    Runs laws cancel (action >>= next) fun outcome statements =>
      ∃ value earlier later, statements = earlier ++ later ∧ first value earlier ∧
        second value outcome later := by
  intro before
  rcases head before with ⟨issues, course, succeeds⟩
  cases ran : action before with
  | mk result middle =>
      rw [ran] at course succeeds
      cases result with
      | error failure =>
          rw [Action.bind_of_error ran]
          refine ⟨issues, course, fun outcome impossible => ?_⟩
          cases impossible
      | ok value =>
          rw [Action.bind_of_ok ran]
          rcases tail value middle with ⟨later, course', succeeds'⟩
          refine ⟨issues ++ later, course.trans course', fun outcome ok => ?_⟩
          have completed := succeeds value rfl
          have completed' := succeeds' outcome ok
          refine ⟨completed.1.trans course completed'.1, value, _, _, ?_, completed.2, completed'.2⟩
          exact List.map_append

theorem Issues.of_runs {action : Action (Workplace σ) α} {expected : α → List Statement → Prop}
    (runs : Runs laws cancel action expected) : Issues laws cancel action :=
  runs.mono fun _ _ _ => trivial

theorem Issues.bind {action : Action (Workplace σ) α} {next : α → Action (Workplace σ) β}
    {expected : α → List Statement → Prop}
    (head : Runs laws cancel action expected) (tail : ∀ value, Issues laws cancel (next value)) :
    Issues laws cancel (action >>= next) :=
  .of_runs (Runs.bind head tail)

theorem Issues.mapM {step : α → Action (Workplace σ) β}
    (steps : ∀ item, Issues laws cancel (step item)) (items : List α) :
    Issues laws cancel (items.mapM step) := by
  induction items with
  | nil =>
      rw [List.mapM_nil]
      exact .of_runs (.pure [])
  | cons item rest inductionHypothesis =>
      rw [List.mapM_cons]
      exact .bind (steps item) fun first => .bind inductionHypothesis fun others =>
        .of_runs (.pure (first :: others))

end Composition

/-! ## The calls of an executor -/

section Calls

variable {laws : Transactional control session Data} {cancel : Option (σ → Bool)}

theorem isCancelled_watched (cancel : Option (σ → Bool)) (state : Workplace σ) :
    Executor.isCancelled (watched cancel) state =
      Executor.isCancelled cancel state.world.world := by
  cases cancel <;> rfl

/-- The world after a statement. -/
def Workplace.afterIssue (session : Session σ) (statement : Statement) (state : Workplace σ) :
    Workplace σ where
  world := {
    world := (session.run statement state.world.world).2
    journal := state.world.journal ++
      [.issued ⟨statement, (session.run statement state.world.world).1, state.world.world⟩] }
  holdsSession := state.holdsSession

theorem course_of_run (laws : Transactional control session Data) {statement : Statement}
    {state : Workplace σ} (willing : Executor.isCancelled cancel state.world.world = false) :
    Course laws cancel state
      [⟨statement, (session.run statement state.world.world).1, state.world.world⟩]
      (Workplace.afterIssue session statement state) where
  journal := rfl
  willing := by
    intro issue member
    rw [List.mem_singleton.1 member]
    exact willing
  kept := by
    intro opened
    have kept := laws.run statement state.world.world opened.transaction
    exact ⟨⟨opened.holds, kept.1⟩, kept.2.1⟩

theorem done_of_outcome {reply : Reply} {cursor : Cursor}
    (ok : Executor.outcomeOf reply = .ok cursor) : reply = .done cursor := by
  cases reply with
  | done given => rw [Except.ok.inj ok]
  | refused refusal => cases ok
  | overtaken => cases ok

/-- One call issues at most one statement, and exactly one if it succeeds. -/
theorem runs_issue (laws : Transactional control session Data) (cancel : Option (σ → Bool))
    (statement : Statement) :
    Runs laws cancel (Executor.issue session.journaled.inUnit (watched cancel) statement)
      fun _ statements => statements = [statement] := by
  intro before
  cases isCancelled : Executor.isCancelled cancel before.world.world with
  | true =>
      have ran : Executor.issue session.journaled.inUnit (watched cancel) statement before =
          (.error .cancelledBefore, before) := by
        rw [Executor.issue, isCancelled_watched, isCancelled]
        rfl
      rw [ran]
      refine ⟨[], .refl before, fun _ impossible => ?_⟩
      cases impossible
  | false =>
      have ran : Executor.issue session.journaled.inUnit (watched cancel) statement before =
          (Executor.outcomeOf (session.run statement before.world.world).1,
            before.afterIssue session statement) := by
        rw [Executor.issue, isCancelled_watched, isCancelled]
        rfl
      rw [ran]
      refine ⟨_, course_of_run laws isCancelled, fun cursor ok => ⟨⟨?_, ?_⟩, rfl⟩⟩
      · intro issue member
        rw [List.mem_singleton.1 member]
        exact ⟨cursor, done_of_outcome ok⟩
      · intro opened
        have effect := (laws.run statement before.world.world opened.transaction).2.2 cursor
          (done_of_outcome ok)
        exact .cons effect (.nil _)

theorem issues_fetchOne (laws : Transactional control session Data) (cancel : Option (σ → Bool))
    (query : Select) : Issues laws cancel ((unitExecutor session cancel).fetchOne query) :=
  .bind (runs_issue laws cancel (.select query)) fun cursor => .of_runs (.pure cursor.rows.head?)

theorem issues_change (laws : Transactional control session Data) (cancel : Option (σ → Bool))
    (statement : Statement) : Issues laws cancel ((unitExecutor session cancel).change statement) :=
  .bind (runs_issue laws cancel statement) fun cursor => .of_runs (.pure cursor.count)

/-! ## Inserts -/

/-- Whether statements insert the rows of a compiled insert once, and otherwise only select. -/
def InsertsOnce (statement : Insert) (statements : List Statement) : Prop :=
  ∃ queries : List Select, statements = .insert statement :: queries.map Statement.select

/-- An insert of one row that does not ask for it selects it anew. -/
theorem runs_insertAndReselect (laws : Transactional control session Data)
    (cancel : Option (σ → Bool)) (single : CompiledInsert) :
    Runs laws cancel
      (Executor.insertAndReselect session.journaled.inUnit (watched cancel) single)
      fun _ statements => InsertsOnce single.statement statements := by
  unfold Executor.insertAndReselect
  have rest : ∀ cursor : Cursor, Runs laws cancel
      (if cursor.count = 0 then pure none
        else Executor.selectOne session.journaled.inUnit (watched cancel)
          (Executor.reselect single.table (single.rows.headD []) cursor.insertedKey))
      fun _ statements => ∃ queries : List Select, statements = queries.map Statement.select := by
    intro cursor
    by_cases isSuppressed : cursor.count = 0
    · rw [if_pos isSuppressed]
      exact (Runs.pure none).mono fun _ _ same => ⟨[], same.2⟩
    · rw [if_neg isSuppressed]
      unfold Executor.selectOne
      refine (Runs.bind (runs_issue laws cancel (.select _)) fun cursor => .pure _).mono ?_
      rintro value _ ⟨_, _, _, rfl, rfl, _, rfl⟩
      exact ⟨[_], rfl⟩
  refine (Runs.bind (runs_issue laws cancel (.insert single.statement)) rest).mono ?_
  rintro value _ ⟨_, _, _, rfl, rfl, queries, rfl⟩
  exact ⟨queries, rfl⟩

theorem issues_runInsert (laws : Transactional control session Data) (cancel : Option (σ → Bool))
    (compiled : CompiledInsert) :
    Issues laws cancel ((unitExecutor session cancel).runInsert compiled) := by
  change Issues laws cancel (Executor.insertRows session.journaled.inUnit (watched cancel) compiled)
  unfold Executor.insertRows
  by_cases isReturning : compiled.contract.returning = true
  · rw [if_pos isReturning]
    exact .bind (runs_issue laws cancel (.insert compiled.statement)) fun cursor =>
      .of_runs (.pure cursor.rows)
  · rw [if_neg isReturning]
    cases compiled.perRow with
    | error failure => exact .throw failure _
    | ok singles =>
        refine .bind (Issues.mapM (fun single => ?_) singles) fun rows => .of_runs (.pure _)
        exact .of_runs (runs_insertAndReselect laws cancel single)

/-- An insert of one row is one statement, with at most a query for the row after it. -/
theorem runs_runInsert_single (laws : Transactional control session Data)
    (cancel : Option (σ → Bool)) {compiled : CompiledInsert} {row : Record}
    (isSingle : compiled.rows = [row]) :
    Runs laws cancel ((unitExecutor session cancel).runInsert compiled)
      fun _ statements => InsertsOnce compiled.statement statements := by
  change Runs laws cancel
    (Executor.insertRows session.journaled.inUnit (watched cancel) compiled) _
  unfold Executor.insertRows
  by_cases isReturning : compiled.contract.returning = true
  · rw [if_pos isReturning]
    refine (Runs.bind (runs_issue laws cancel (.insert compiled.statement)) fun cursor =>
      .pure cursor.rows).mono ?_
    rintro value _ ⟨_, _, _, rfl, rfl, _, rfl⟩
    exact ⟨[], rfl⟩
  · rw [if_neg isReturning]
    have unsplit : compiled.perRow = .ok [compiled] := by
      rw [CompiledInsert.perRow, isSingle]
      rfl
    rw [unsplit]
    simp only [List.mapM_cons, List.mapM_nil]
    have one := runs_insertAndReselect laws cancel compiled
    refine (Runs.bind (Runs.bind one fun first => Runs.bind (.pure []) fun others =>
      .pure (first :: others)) fun rows => .pure (rows.filterMap id)).mono ?_
    rintro value _ ⟨_, _, _, rfl, ⟨_, _, _, rfl, inserts, _, _, _, rfl, ⟨_, rfl⟩, _, rfl⟩, _, rfl⟩
    simpa using inserts

end Calls

end RecordGraph
