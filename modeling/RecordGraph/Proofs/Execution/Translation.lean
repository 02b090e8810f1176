import RecordGraph.Proofs.Execution.Course

/-!
Contract: how the failure of a statement is reported by whatever has issued it.

Owns: the classes that refusals belong to, `Reported`, `Heeds` and its composition, and `Demand`,
the calls of an executor.
Does not own: failures of planning, and the beginning and the end of transactions.

Between a session and its database stands a toolkit, which puts statements into words, binds values
and names the columns of results. It refuses statements on its own account, and what it refuses has
not failed in the database.
-/

namespace RecordGraph

open RecordGraph.Sql

/-! ## Refusals -/

/-- Whether a failure is the toolkit's: a statement has no words, a value does not suit its
parameter, or the columns of a result cannot be told apart. -/
def Foreign.isToolkit : Foreign → Bool
  | .invalidBinding | .invalidComparison | .unspeakable | .ambiguousColumn | .danglingTable
  | .danglingColumn => true
  | _ => false

namespace Refusal

/-- Whether a statement was refused by the database. -/
def isDatabase : Refusal → Bool
  | .integrity .. | .database _ => true
  | .other _ => false

/-- Whether a statement was refused by the database or by the toolkit before it. -/
def isRaised : Refusal → Bool
  | .integrity .. | .database _ => true
  | .other (.foreign cause) => cause.isToolkit
  | .other _ => false

/-- The class in which a refused statement is to be reported. -/
def taxon : Refusal → ErrorKind
  | .integrity message state code =>
      if isUniqueViolation message state code then .uniqueViolation else .statement
  | .database _ | .other _ => .statement

/-- A refused statement is reported in its class if it was the database that refused it. -/
theorem kind_toError_eq_taxon_iff {refusal : Refusal} (isRaised : refusal.isRaised = true) :
    refusal.toError.kind = refusal.taxon ↔ refusal.isDatabase = true := by
  cases refusal with
  | integrity message state code =>
      refine iff_of_true ?_ rfl
      unfold toError taxon
      dsimp only
      split <;> rfl
  | database message => exact iff_of_true rfl rfl
  | other error =>
      cases error with
      | foreign cause => exact iff_of_false nofun nofun
      | _ => cases isRaised

end Refusal

/-! ## Reports -/

variable {σ Data : Type} {control : SessionControl σ} {session : Session σ}
variable {laws : Transactional control session Data} {cancel : Option (σ → Bool)}

/-- What an action reports of the statements that it has issued, and which failures are its own. -/
structure Reported {α : Type} (session : Session σ) (cancel : Option (σ → Bool))
    (own : Error → Prop) (issues : List (Issue σ)) (result : Except Error α)
    (after : Workplace σ) : Prop where
  genuine : ∀ issue ∈ issues, issue.reply = (session.run issue.statement issue.before).1
  /-- A statement that is not done ends the action with its failure. -/
  broken : ∀ issue ∈ issues, ∀ failure, Executor.outcomeOf issue.reply = .error failure →
    result = .error failure
  founded : ∀ failure, result = .error failure →
    (∃ issue ∈ issues, Executor.outcomeOf issue.reply = .error failure) ∨
      (failure = .cancelledBefore ∧ Executor.isCancelled cancel after.world.world = true) ∨
        own failure

/-- Whether an action only issues statements, and reports what becomes of them. -/
def Heeds {α : Type} (laws : Transactional control session Data) (cancel : Option (σ → Bool))
    (own : Error → Prop) (action : Action (Workplace σ) α) : Prop :=
  ∀ before, ∃ issues, Course laws cancel before issues (action before).2 ∧
    Reported session cancel own issues (action before).1 (action before).2

section Composition

variable {α β : Type} {own wider : Error → Prop} {action : Action (Workplace σ) α}
  {next : α → Action (Workplace σ) β}

/-- Nothing is to be reported of no statements. -/
theorem Reported.of_quiet {result : Except Error α} {after : Workplace σ}
    (owns : ∀ failure, result = .error failure → own failure) :
    Reported session cancel own [] result after where
  genuine _ member := absurd member List.not_mem_nil
  broken _ member := absurd member List.not_mem_nil
  founded failure failed := Or.inr (Or.inr (owns failure failed))

theorem Heeds.ofExcept {result : Result α}
    (owns : ∀ failure, result = .error failure → own failure) :
    Heeds laws cancel own (MonadExcept.ofExcept result) := by
  intro before
  rw [Action.ofExcept_apply]
  exact ⟨[], .refl before, .of_quiet owns⟩

theorem Heeds.pure (value : α) : Heeds laws cancel own (Pure.pure value) :=
  fun before => ⟨[], .refl before, .of_quiet fun _ impossible => nomatch impossible⟩

theorem Heeds.throw {failure : Error} (owns : own failure) :
    Heeds laws cancel own (MonadExcept.throw failure : Action (Workplace σ) α) := by
  refine fun before => ⟨[], .refl before, .of_quiet fun other failed => ?_⟩
  cases failed
  exact owns

theorem Heeds.mono (heeds : Heeds laws cancel own action)
    (implies : ∀ failure, own failure → wider failure) : Heeds laws cancel wider action := by
  intro before
  obtain ⟨issues, course, reported⟩ := heeds before
  refine ⟨issues, course, reported.genuine, reported.broken, fun failure failed => ?_⟩
  exact (reported.founded failure failed).imp_right (Or.imp_right (implies failure))

/-- A step that succeeded has left no failure to report. -/
theorem Heeds.bind (head : Heeds laws cancel own action)
    (tail : ∀ value, Heeds laws cancel own (next value)) :
    Heeds laws cancel own (action >>= next) := by
  intro before
  obtain ⟨earlier, course, reported⟩ := head before
  cases ran : action before with
  | mk result middle =>
      rw [ran] at course reported
      cases result with
      | error failure =>
          rw [Action.bind_of_error ran]
          refine ⟨earlier, course, reported.genuine, fun issue member other failed => ?_,
            fun other failed => ?_⟩
          · cases reported.broken issue member other failed
            rfl
          · cases failed
            exact reported.founded failure rfl
      | ok value =>
          rw [Action.bind_of_ok ran]
          obtain ⟨later, course', reported'⟩ := tail value middle
          refine ⟨earlier ++ later, course.trans course', ?_, ?_, fun failure failed => ?_⟩
          · exact List.forall_mem_append.2 ⟨reported.genuine, reported'.genuine⟩
          · refine List.forall_mem_append.2 ⟨fun issue member failure failed => ?_,
              reported'.broken⟩
            cases reported.broken issue member failure failed
          · refine (reported'.founded failure failed).imp_left ?_
            exact fun ⟨issue, member, isFailure⟩ =>
              ⟨issue, List.mem_append_right earlier member, isFailure⟩

theorem Heeds.mapM {step : α → Action (Workplace σ) β}
    (steps : ∀ item, Heeds laws cancel own (step item)) (items : List α) :
    Heeds laws cancel own (items.mapM step) := by
  induction items with
  | nil =>
      rw [List.mapM_nil]
      exact .pure []
  | cons item rest inductionHypothesis =>
      rw [List.mapM_cons]
      exact (steps item).bind fun first => inductionHypothesis.bind fun others =>
        .pure (first :: others)

theorem Heeds.foldlM {step : β → α → Action (Workplace σ) β}
    (steps : ∀ state item, Heeds laws cancel own (step state item)) (items : List α) :
    ∀ state, Heeds laws cancel own (items.foldlM step state) := by
  induction items with
  | nil => exact fun state => .pure state
  | cons item rest inductionHypothesis =>
      intro state
      rw [List.foldlM_cons]
      exact (steps state item).bind inductionHypothesis

end Composition

/-! ## Single statements -/

/-- What is journaled of a statement that is issued. -/
def Session.issueOf (session : Session σ) (statement : Statement) (state : Workplace σ) : Issue σ :=
  ⟨statement, (session.run statement state.world.world).1, state.world.world⟩

theorem issue_of_cancelled (session : Session σ) (cancel : Option (σ → Bool))
    (statement : Statement) {state : Workplace σ}
    (isSet : Executor.isCancelled cancel state.world.world = true) :
    Executor.issue session.journaled.inUnit (watched cancel) statement state =
      (.error .cancelledBefore, state) := by
  rw [Executor.issue, isCancelled_watched, isSet]
  rfl

theorem issue_of_willing (session : Session σ) (cancel : Option (σ → Bool))
    (statement : Statement) {state : Workplace σ}
    (willing : Executor.isCancelled cancel state.world.world = false) :
    Executor.issue session.journaled.inUnit (watched cancel) statement state =
      (Executor.outcomeOf (session.run statement state.world.world).1,
        state.afterIssue session statement) := by
  rw [Executor.issue, isCancelled_watched, willing]
  rfl

/-- A call for one statement fails as the statement does, or because the event was set. -/
theorem heeds_issue (laws : Transactional control session Data) (cancel : Option (σ → Bool))
    (own : Error → Prop) (statement : Statement) :
    Heeds laws cancel own
      (Executor.issue session.journaled.inUnit (watched cancel) statement) := by
  intro before
  cases isCancelled : Executor.isCancelled cancel before.world.world with
  | true =>
      rw [issue_of_cancelled session cancel statement isCancelled]
      refine ⟨[], .refl before, fun _ member => absurd member List.not_mem_nil,
        fun _ member => absurd member List.not_mem_nil, fun failure failed => ?_⟩
      cases failed
      exact Or.inr (Or.inl ⟨rfl, isCancelled⟩)
  | false =>
      rw [issue_of_willing session cancel statement isCancelled]
      refine ⟨[session.issueOf statement before], course_of_run laws isCancelled,
        List.forall_mem_singleton.2 rfl,
        List.forall_mem_singleton.2 fun failure failed => failed, fun failure failed => ?_⟩
      exact Or.inl ⟨_, List.mem_singleton_self _, failed⟩

/-! ## The calls of an executor -/

/-- What is asked of an executor, by the type of its answer. -/
inductive Demand : Type → Type where
  | fetchAll (query : Select) : Demand (List Record)
  | fetchOne (query : Select) : Demand (Option Record)
  | change (statement : Statement) : Demand Int
  | runInsert (compiled : CompiledInsert) : Demand (List Record)

namespace Demand

variable {α : Type}

def perform (executor : Executor σ) : Demand α → Action σ α
  | .fetchAll query => executor.fetchAll query
  | .fetchOne query => executor.fetchOne query
  | .change statement => executor.change statement
  | .runInsert compiled => executor.runInsert compiled

/-- How an insert that asks for no rows fails to be split into one statement a row. -/
def Unsplit : Demand α → Error → Prop
  | .runInsert compiled, failure =>
      compiled.contract.returning = false ∧ compiled.perRow = .error failure
  | _, _ => False

/-- The statement that an insert begins with, unless it has no rows or cannot be split. -/
def firstInsert? (compiled : CompiledInsert) : Option Statement :=
  if compiled.contract.returning = true then some (.insert compiled.statement)
  else
    match compiled.perRow with
    | .ok (single :: _) => some (.insert single.statement)
    | _ => none

/-- The statement that a call begins with, if there is one. -/
def first? : Demand α → Option Statement
  | .fetchAll query | .fetchOne query => some (.select query)
  | .change statement => some statement
  | .runInsert compiled => firstInsert? compiled

end Demand

theorem heeds_selectOne (own : Error → Prop) (query : Select) :
    Heeds laws cancel own
      (Executor.selectOne session.journaled.inUnit (watched cancel) query) :=
  (heeds_issue laws cancel own (.select query)).bind fun cursor => .pure cursor.rows.head?

theorem heeds_insertAndReselect (own : Error → Prop) (single : CompiledInsert) :
    Heeds laws cancel own
      (Executor.insertAndReselect session.journaled.inUnit (watched cancel) single) := by
  refine (heeds_issue laws cancel own (.insert single.statement)).bind fun cursor => ?_
  split
  · exact .pure none
  · exact heeds_selectOne own _

/-- Of an insert that asks for its rows, or of which each row is inserted and selected again. -/
theorem heeds_insertRows {own : Error → Prop} {compiled : CompiledInsert}
    (owns : ∀ failure, (Demand.runInsert compiled).Unsplit failure → own failure) :
    Heeds laws cancel own
      (Executor.insertRows session.journaled.inUnit (watched cancel) compiled) := by
  unfold Executor.insertRows
  by_cases isReturning : compiled.contract.returning = true
  · rw [if_pos isReturning]
    exact (heeds_issue laws cancel own (.insert compiled.statement)).bind fun cursor =>
      .pure cursor.rows
  · rw [if_neg isReturning]
    cases split : compiled.perRow with
    | error failure => exact .throw (owns failure ⟨eq_false_of_ne_true isReturning, split⟩)
    | ok singles =>
        exact (Heeds.mapM (heeds_insertAndReselect own) singles).bind fun rows => .pure _

/-- An executor fails as its statements do, because the event was set, or because an insert cannot
be split. -/
theorem heeds_perform {α : Type} (laws : Transactional control session Data)
    (cancel : Option (σ → Bool)) (demand : Demand α) :
    Heeds laws cancel demand.Unsplit (demand.perform (unitExecutor session cancel)) := by
  cases demand with
  | fetchAll query =>
      exact (heeds_issue laws cancel _ (.select query)).bind fun cursor => .pure cursor.rows
  | fetchOne query => exact heeds_selectOne _ query
  | change statement =>
      exact (heeds_issue laws cancel _ statement).bind fun cursor => .pure cursor.count
  | runInsert compiled => exact heeds_insertRows fun failure unsplit => unsplit

/-- What an insert does after its first statement. -/
theorem insertRows_of_first {compiled : CompiledInsert} {statement : Statement}
    (isFirst : Demand.firstInsert? compiled = some statement) :
    ∃ next, Executor.insertRows session.journaled.inUnit (watched cancel) compiled =
        Executor.issue session.journaled.inUnit (watched cancel) statement >>= next ∧
      ∀ cursor, Heeds laws cancel (fun _ => False) (next cursor) := by
  unfold Demand.firstInsert? at isFirst
  unfold Executor.insertRows
  split at isFirst
  case isTrue isReturning =>
    cases isFirst
    rw [if_pos isReturning]
    exact ⟨_, rfl, fun cursor => .pure cursor.rows⟩
  case isFalse isSilent =>
    rw [if_neg isSilent]
    split at isFirst
    case h_2 => cases isFirst
    case h_1 single rest split =>
      cases isFirst
      rw [split]
      dsimp only
      rw [List.mapM_cons, bind_assoc]
      unfold Executor.insertAndReselect
      rw [bind_assoc]
      refine ⟨_, rfl, fun cursor => ?_⟩
      refine Heeds.bind ?_ fun first => Heeds.bind (Heeds.bind
        (Heeds.mapM (heeds_insertAndReselect _) rest) fun others => .pure _) fun rows => .pure _
      split
      · exact .pure none
      · exact heeds_selectOne _ _

/-- What a call does after its first statement. -/
theorem Demand.perform_of_first {α : Type} (laws : Transactional control session Data)
    (cancel : Option (σ → Bool)) {demand : Demand α} {statement : Statement}
    (isFirst : demand.first? = some statement) :
    ∃ next, demand.perform (unitExecutor session cancel) =
        Executor.issue session.journaled.inUnit (watched cancel) statement >>= next ∧
      ∀ cursor, Heeds laws cancel (fun _ => False) (next cursor) := by
  cases demand with
  | fetchAll query =>
      cases isFirst
      exact ⟨_, rfl, fun cursor => .pure cursor.rows⟩
  | fetchOne query =>
      cases isFirst
      exact ⟨_, rfl, fun cursor => .pure cursor.rows.head?⟩
  | change given =>
      cases isFirst
      exact ⟨_, rfl, fun cursor => .pure cursor.count⟩
  | runInsert compiled => exact insertRows_of_first isFirst

/-- A call without a first statement does nothing. -/
theorem Demand.perform_of_none {α : Type} (session : Session σ) (cancel : Option (σ → Bool))
    {demand : Demand α} (isNone : demand.first? = none) (state : Workplace σ) :
    ∃ result, demand.perform (unitExecutor session cancel) state = (result, state) := by
  cases demand with
  | runInsert compiled =>
      change ∃ result, Executor.insertRows session.journaled.inUnit (watched cancel) compiled
        state = (result, state)
      change Demand.firstInsert? compiled = none at isNone
      unfold Demand.firstInsert? at isNone
      unfold Executor.insertRows
      split at isNone
      case isTrue => cases isNone
      case isFalse isSilent =>
        rw [if_neg isSilent]
        split at isNone
        case h_1 => cases isNone
        case h_2 isEmpty =>
          cases split : compiled.perRow with
          | error failure => exact ⟨_, rfl⟩
          | ok singles =>
              cases singles with
              | nil => exact ⟨_, rfl⟩
              | cons single rest => exact absurd split (isEmpty single rest)
  | _ => cases isNone

/-- What a call has issued, and what it reports of it. -/
structure Demand.Answers {α : Type} (session : Session σ) (cancel : Option (σ → Bool))
    (demand : Demand α) (before : Workplace σ) (issues : List (Issue σ)) (result : Except Error α)
    (after : Workplace σ) : Prop where
  journal : after.world.journal = before.world.journal ++ issues.map Event.issued
  willing : ∀ issue ∈ issues, Executor.isCancelled cancel issue.before = false
  reported : Reported session cancel demand.Unsplit issues result after
  begins : Executor.isCancelled cancel before.world.world = false →
    issues.head? = demand.first?.map fun statement => session.issueOf statement before
  /-- Once the event is set, a call that has something to issue fails without issuing it. -/
  refuses : Executor.isCancelled cancel before.world.world = true →
    issues = [] ∧ (demand.first?.isSome = true → result = .error .cancelledBefore)

/-- What was issued can be read off the journal. -/
theorem Course.eq_nil_of_journal {before after : Workplace σ} {issues : List (Issue σ)}
    (course : Course laws cancel before issues after)
    (same : after.world.journal = before.world.journal) : issues = [] := by
  have journal := course.journal.symm.trans (same.trans (List.append_nil _).symm)
  exact List.map_eq_nil_iff.1 (List.append_cancel_left journal)

theorem Course.head?_of_journal {before after : Workplace σ} {issues : List (Issue σ)}
    {issue : Issue σ} {rest : List (Event σ)} (course : Course laws cancel before issues after)
    (begins : after.world.journal = before.world.journal ++ .issued issue :: rest) :
    issues.head? = some issue := by
  have same := List.append_cancel_left (course.journal.symm.trans begins)
  cases issues with
  | nil => cases same
  | cons first others =>
      rw [Event.issued.inj (List.cons.inj same).1]
      rfl

/-! ## Sessions without transactions -/

/-- Transaction control of which nothing is asked. -/
def SessionControl.idle (σ : Type) : SessionControl σ where
  create := pure true
  inTransaction _ := true
  begin := pure ()
  commit := pure ()
  rollback := pure ()
  close := pure ()

/-- Every session keeps its promises about no data. -/
def Session.unbound (session : Session σ) : Transactional (.idle σ) session Unit where
  stored _ := ()
  current _ := ()
  Effect _ _ _ := True
  create _ impossible := nomatch impossible
  begin _ impossible := nomatch impossible
  run _ _ _ := ⟨rfl, rfl, fun _ _ => trivial⟩
  commit world _ := ⟨world, rfl, rfl⟩
  rollback world _ := ⟨world, rfl, rfl⟩
  close world := ⟨world, rfl, rfl⟩

/-! ## Whole calls -/

/-- A call whose event is not set begins with its first statement. -/
theorem Demand.journal_of_first {α : Type} (session : Session σ) {demand : Demand α}
    {statement : Statement} {before : Workplace σ} (isFirst : demand.first? = some statement)
    (willing : Executor.isCancelled cancel before.world.world = false) :
    ∃ rest, (demand.perform (unitExecutor session cancel) before).2.world.journal =
      before.world.journal ++ .issued (session.issueOf statement before) :: rest := by
  obtain ⟨next, isBind, heeds⟩ := perform_of_first session.unbound cancel isFirst
  have issued := issue_of_willing session cancel statement willing
  rw [isBind]
  cases outcome : Executor.outcomeOf (session.run statement before.world.world).1 with
  | error failure =>
      rw [outcome] at issued
      rw [Action.bind_of_error issued]
      exact ⟨[], rfl⟩
  | ok cursor =>
      rw [outcome] at issued
      rw [Action.bind_of_ok issued]
      obtain ⟨later, course, _⟩ := heeds cursor (before.afterIssue session statement)
      exact ⟨later.map Event.issued, course.journal.trans (List.append_assoc ..)⟩

/-- Every call of an executor issues what it begins with, unless its event was set before, and
reports what becomes of it and of all that it issues after it. -/
theorem Demand.answers_perform {α : Type} (session : Session σ) (cancel : Option (σ → Bool))
    (demand : Demand α) (before : Workplace σ) :
    ∃ issues, demand.Answers session cancel before issues
      (demand.perform (unitExecutor session cancel) before).1
      (demand.perform (unitExecutor session cancel) before).2 := by
  obtain ⟨issues, course, reported⟩ := heeds_perform session.unbound cancel demand before
  refine ⟨issues, course.journal, course.willing, reported, fun willing => ?_, fun isSet => ?_⟩
  · cases isFirst : demand.first? with
    | none =>
        obtain ⟨result, ran⟩ := perform_of_none session cancel isFirst before
        rw [course.eq_nil_of_journal (by rw [ran])]
        rfl
    | some statement =>
        obtain ⟨rest, begins⟩ := journal_of_first session isFirst willing
        exact course.head?_of_journal begins
  · cases isFirst : demand.first? with
    | none =>
        obtain ⟨result, ran⟩ := perform_of_none session cancel isFirst before
        exact ⟨course.eq_nil_of_journal (by rw [ran]), nofun⟩
    | some statement =>
        obtain ⟨next, isBind, _⟩ := perform_of_first session.unbound cancel isFirst
        have refused := issue_of_cancelled session cancel statement isSet
        have ran := (congrFun isBind before).trans (Action.bind_of_error refused)
        exact ⟨course.eq_nil_of_journal (by rw [ran]), fun _ => congrArg Prod.fst ran⟩

end RecordGraph
