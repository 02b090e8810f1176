import RecordGraph.Proofs.Execution.Translation
import RecordGraph.Proofs.Repository.Call

/-!
Contract: how the operations of a repository report the failures of their statements.

Owns: `RepositoryCall`, the calls of all operations, and when a refused statement is reported in its
class, by an executor and by every operation.
Does not own: failures of planning, and those of a transaction's own steps.
-/

namespace RecordGraph

open RecordGraph.Sql

variable {σ Data : Type} {control : SessionControl σ} {session : Session σ}
variable {laws : Transactional control session Data} {cancel : Option (σ → Bool)}

/-- Whether an action heeds its statements, whatever else it fails with. -/
abbrev HeedsAll {α : Type} (laws : Transactional control session Data)
    (cancel : Option (σ → Bool)) (action : Action (Workplace σ) α) : Prop :=
  Heeds laws cancel (fun _ => True) action

section Composition

variable {α β : Type}

theorem Heeds.lift (result : Result α) :
    HeedsAll laws cancel (Repository.lift result : Action (Workplace σ) α) :=
  .ofExcept fun _ _ => trivial

theorem Heeds.demand (demand : Demand α) :
    HeedsAll laws cancel (demand.perform (unitExecutor session cancel)) :=
  (heeds_perform laws cancel demand).mono fun _ _ => trivial

end Composition

theorem heeds_fetchOne (query : Select) :
    HeedsAll laws cancel ((unitExecutor session cancel).fetchOne query) :=
  .demand (.fetchOne query)

theorem heeds_change (statement : Statement) :
    HeedsAll laws cancel ((unitExecutor session cancel).change statement) :=
  .demand (.change statement)

/-! ## Bodies -/

namespace Repository

variable (repository : Repository (Workplace σ))

theorem heeds_compileAndRun (table : Table) (rows : List Record)
    (conflict : Option ConflictPolicy) :
    HeedsAll laws cancel
      (repository.compileAndRun (unitExecutor session cancel) table rows conflict) :=
  Heeds.bind (.lift _) fun compiled => Heeds.bind (.demand (.runInsert compiled))
    fun touched => .pure (compiled, touched)

theorem heeds_insertRow (table : Table) (values : Record) :
    HeedsAll laws cancel (repository.insertRow (unitExecutor session cancel) table values) := by
  refine Heeds.bind (heeds_compileAndRun repository table [values] none) fun outcome => ?_
  refine Heeds.bind (.lift _) fun row => ?_
  cases row with
  | none => exact .throw trivial
  | some row => exact .pure row

theorem heeds_executeInsertPlan (plan : InsertPlan) :
    HeedsAll laws cancel (repository.executeInsertPlan plan (unitExecutor session cancel)) := by
  refine Heeds.foldlM (fun rows operation => ?_) plan.operations []
  refine Heeds.bind (.lift _) fun values => Heeds.bind (.lift _) fun compiled => ?_
  refine Heeds.bind (.demand (.runInsert compiled)) fun touched => ?_
  refine Heeds.bind (.lift _) fun row => ?_
  dsimp only
  split
  · exact Heeds.bind (.throw trivial) fun _ => .pure _
  · exact .pure _

theorem heeds_fetchLevel (level : FetchLevel) (parents : List Record) :
    HeedsAll laws cancel (fetchLevel (unitExecutor session cancel) level parents) := by
  refine Heeds.bind (.lift _) fun keys => ?_
  dsimp only
  split
  · exact Heeds.bind (.pure []) fun rows => .lift _
  · refine Heeds.bind (.lift _) fun query => ?_
    exact Heeds.bind (.demand (.fetchAll query)) fun rows => .lift _

theorem heeds_fetchLevels (roots : List Record) (levels : List FetchLevel) :
    ∀ fetched, HeedsAll laws cancel
      (fetchLevels (unitExecutor session cancel) roots fetched levels) := by
  induction levels with
  | nil => exact fun fetched => .pure fetched
  | cons level rest inductionHypothesis =>
      exact fun fetched => Heeds.bind (heeds_fetchLevel level _) fun rows => inductionHypothesis _

theorem heeds_executeFetchPlan (plan : FetchPlan) :
    HeedsAll laws cancel (executeFetchPlan plan (unitExecutor session cancel)) :=
  Heeds.bind (.demand (.fetchAll plan.root)) fun roots =>
    Heeds.bind (heeds_fetchLevels roots plan.levels []) fun _ => .pure _

end Repository

namespace RelatedQuery

variable (query : RelatedQuery (Workplace σ))

theorem heeds_load (entity : Entity) (key : Value) :
    HeedsAll laws cancel (RelatedQuery.load (unitExecutor session cancel) entity key) := by
  unfold RelatedQuery.load
  split
  · exact .pure none
  · exact heeds_fetchOne _

theorem heeds_link (owner target : Record) :
    HeedsAll laws cancel (query.link (unitExecutor session cancel) owner target) := by
  unfold RelatedQuery.link
  dsimp only
  split
  · refine Heeds.bind (.lift _) fun key => ?_
    exact Heeds.bind (heeds_change _) fun _ => .pure ()
  · exact .throw trivial
  · refine Heeds.bind (.lift _) fun table => Heeds.bind (.lift _) fun source => ?_
    refine Heeds.bind (.lift _) fun destination => ?_
    exact Heeds.bind (Repository.heeds_insertRow query.repository table _) fun _ => .pure ()

end RelatedQuery

/-! ## Operations -/

/-- The issues among events. -/
def Event.issue? : Event σ → Option (Issue σ)
  | .issued issue => some issue
  | _ => none

/-- What an operation reports of the statements that are issued in its course. -/
structure Reports {α : Type} (session : Session σ) (before : Workplace σ) (events : List (Event σ))
    (result : Except Error α) (after : Workplace σ) : Prop where
  journal : after.world.journal = before.world.journal ++ events
  genuine : ∀ issue ∈ events.filterMap Event.issue?,
    issue.reply = (session.run issue.statement issue.before).1
  /-- A statement that is not done ends the operation with its failure. -/
  broken : ∀ issue ∈ events.filterMap Event.issue?, ∀ failure,
    Executor.outcomeOf issue.reply = .error failure → result = .error failure

/-- Whether an operation is settled without looking at the world, or else is one body that heeds its
statements, in its scope, with nothing but a computation on its value afterwards. -/
inductive Attentive {α : Type} (laws : Transactional control session Data)
    (cancel : Option (σ → Bool)) (scope : Option (Scope (Workplace σ)))
    (operation : Action (Workplace σ) α) : Prop where
  | settled (result : Result α) (settles : operation = MonadExcept.ofExcept result)
  | runs {β : Type} (body : Action (Workplace σ) β) (finish : β → α)
      (heeds : HeedsAll laws cancel body) (runsIn : operation = finish <$> Scope.around scope body)

section Form

variable {α β : Type} {scope : Option (Scope (Workplace σ))} {operation : Action (Workplace σ) α}

theorem filterMap_issued (issues : List (Issue σ)) :
    (issues.map Event.issued).filterMap Event.issue? = issues := by
  rw [List.filterMap_map]
  exact List.filterMap_some

/-- What a body in a unit of work reports is what the operation does. -/
theorem Reports.of_reported {own : Error → Prop} {issues : List (Issue σ)}
    {events : List (Event σ)} {before middle after : Workplace σ} {result : Except Error β}
    (finish : β → α) (reported : Reported session cancel own issues result middle)
    (journal : after.world.journal = before.world.journal ++ events)
    (areIssues : events.filterMap Event.issue? = issues) :
    Reports session before events (result.map finish) after where
  journal := journal
  genuine := by
    rw [areIssues]
    exact reported.genuine
  broken := by
    rw [areIssues]
    intro issue member failure failed
    rw [reported.broken issue member failure failed]
    rfl

theorem Reports.of_quiet (state : Workplace σ) (result : Except Error α) :
    Reports session state [] result state where
  journal := (List.append_nil _).symm
  genuine _ member := absurd member List.not_mem_nil
  broken _ member := absurd member List.not_mem_nil

/-- A body that heeds its statements does so in a unit of work. -/
theorem reports_within_unit {body : Action (Workplace σ) β} (finish : β → α)
    (heeds : HeedsAll laws cancel body) {before : Workplace σ}
    (closed : control.inTransaction before.world.world = false) :
    ∃ events, Reports session before events (((unitScope control).within body before).1.map finish)
      ((unitScope control).within body before).2 := by
  obtain ⟨entered, enterRan, opened, _, _, begun⟩ := enter_unit laws closed
  obtain ⟨issues, course, reported⟩ := heeds entered
  have areIssues : ∀ last : Event σ, last.issue? = none →
      (Event.begun :: issues.map Event.issued ++ [last]).filterMap Event.issue? = issues := by
    intro last isOther
    rw [List.filterMap_append, List.filterMap_cons_none (by rfl), filterMap_issued,
      List.filterMap_cons_none isOther, List.filterMap_nil, List.append_nil]
  cases bodyRan : body entered with
  | mk result middle =>
      rw [bodyRan] at course reported
      cases result with
      | ok value =>
          obtain ⟨after, leaveRan, _, journal⟩ := leave_after_success laws (course.kept opened).1
          rw [Scope.within_of_ok enterRan bodyRan leaveRan]
          exact ⟨_, .of_reported finish reported
            (journal.trans (course.journal_between begun .committed)) (areIssues _ rfl)⟩
      | error failure =>
          obtain ⟨after, leaveRan, _, journal⟩ :=
            leave_after_failure laws (course.kept opened).1 failure
          rw [Scope.within_of_error enterRan bodyRan leaveRan]
          exact ⟨_, .of_reported finish reported
            (journal.trans (course.journal_between begun .rolledBack)) (areIssues _ rfl)⟩

/-- With a unit of work of its own, or without any, an attentive operation reports what it has
issued. -/
theorem Attentive.fresh {hasFactory : Bool}
    (form : Attentive laws cancel (if hasFactory then some (unitScope control) else none) operation)
    {before : Workplace σ} (closed : control.inTransaction before.world.world = false) :
    ∃ events, Reports session before events (operation before).1 (operation before).2 := by
  cases form with
  | settled result settles =>
      rw [settles, Action.ofExcept_apply]
      exact ⟨[], .of_quiet before result⟩
  | runs body finish heeds runsIn =>
      rw [runsIn, Action.map_apply]
      cases hasFactory with
      | false => exact ⟨[], .of_quiet before _⟩
      | true => exact reports_within_unit finish heeds closed

/-- In the caller's unit of work, an attentive operation reports its statements. -/
theorem Attentive.borrowed (form : Attentive laws cancel (some Scope.entered) operation)
    (before : Workplace σ) :
    ∃ events, Reports session before events (operation before).1 (operation before).2 := by
  cases form with
  | settled result settles =>
      rw [settles, Action.ofExcept_apply]
      exact ⟨[], .of_quiet before result⟩
  | runs body finish heeds runsIn =>
      have same : Scope.around (some Scope.entered) body = body := Scope.entered_within body
      obtain ⟨issues, course, reported⟩ := heeds before
      rw [runsIn, same, Action.map_apply]
      exact ⟨_, .of_reported finish reported course.journal (filterMap_issued issues)⟩

theorem Attentive.after {result : Result β} {next : β → Action (Workplace σ) α}
    (tail : ∀ value, result = .ok value → Attentive laws cancel scope (next value)) :
    Attentive laws cancel scope (Repository.lift result >>= next) := by
  cases isResult : result with
  | error failure => exact .settled (.error failure) rfl
  | ok value => exact tail value isResult

theorem Attentive.map (finish : α → β) (form : Attentive laws cancel scope operation) :
    Attentive laws cancel scope (finish <$> operation) := by
  cases form with
  | settled result settles =>
      refine .settled (result.map finish) ?_
      rw [settles]
      cases result <;> rfl
  | runs body inner heeds runsIn =>
      refine .runs body (finish ∘ inner) heeds ?_
      rw [runsIn, comp_map]

variable {registry : Registry} {entity : Entity} {config : Config}

theorem Attentive.within {body : Executor (Workplace σ) → Action (Workplace σ) α}
    (heeds : HeedsAll laws cancel (body (unitExecutor session cancel))) :
    Attentive laws cancel scope
      ((Repository.over registry entity config session scope).within (watched cancel) body) := by
  refine .runs _ id heeds ?_
  rw [id_map]
  cases scope <;> rfl

theorem attentive_fetch (filter : Option Filter) (eager : ExpressionSource Filter)
    (allow : AllowSource Filter) (filters : List (String × Option Filter)) :
    Attentive laws cancel scope ((Repository.over registry entity config session scope).fetch filter
      eager allow filters (watched cancel)) :=
  .after fun plan _ => .within (Repository.heeds_executeFetchPlan plan)

theorem attentive_findById (key : Value) (eager : ExpressionSource Filter)
    (allow : AllowSource Filter) (filters : List (String × Option Filter)) :
    Attentive laws none scope ((Repository.over registry entity config session scope).findById key
      eager allow filters) := by
  unfold Repository.findById
  split
  · exact .settled (.ok none) rfl
  · have attends : Attentive laws none scope
        ((Repository.over registry entity config session scope).fetch
          (some (Filter.restrict (Repository.byKey entity key))) eager allow filters none) :=
      attentive_fetch _ eager allow filters
    exact attends.map List.head?

theorem attentive_insertGraph (payload : Payload) (allow : AllowSource Filter)
    (conflict : Option ConflictPolicy) :
    Attentive laws cancel scope ((Repository.over registry entity config session scope).insertGraph
      payload allow conflict (watched cancel)) :=
  .after fun plan _ => (Attentive.within (Repository.heeds_executeInsertPlan _ plan)).map
    plan.assemble

theorem attentive_insert (values : Record) (conflict : Option ConflictPolicy) :
    Attentive laws none scope
      ((Repository.over registry entity config session scope).insert values conflict) := by
  refine .after fun values _ => .within ?_
  exact Heeds.bind (Repository.heeds_compileAndRun _ _ _ _) fun outcome => .lift _

theorem attentive_insertReturning (rows : List Record) (conflict : Option ConflictPolicy) :
    Attentive laws none scope
      ((Repository.over registry entity config session scope).insertReturning rows conflict) := by
  unfold Repository.insertReturning
  split
  · exact .settled (.ok []) rfl
  · refine .after fun values _ => .within ?_
    exact Heeds.bind (Repository.heeds_compileAndRun _ _ _ _) fun outcome => .pure _

theorem attentive_patchById (key : Value) (values : Record) :
    Attentive laws none scope
      ((Repository.over registry entity config session scope).patchById key values) := by
  refine .after fun values _ => .within ?_
  have selects : ∀ missing : Bool, HeedsAll laws none
      (if missing = true then pure none
        else (unitExecutor session none).fetchOne
          (Repository.selectByKey entity ((values.get? entity.key.name).getD key))) := by
    intro missing
    cases missing with
    | false => exact heeds_fetchOne _
    | true => exact .pure none
  dsimp only
  split
  · exact Heeds.bind (.pure false) selects
  · refine Heeds.bind (heeds_change _) fun count => ?_
    exact Heeds.bind (.pure (count == 0)) selects

theorem attentive_deleteById (key : Value) :
    Attentive laws none scope
      ((Repository.over registry entity config session scope).deleteById key) :=
  .within (heeds_change _)

/-- An operation on related records is attentive if it is for every query. -/
theorem Attentive.related {owner : Value} {relation : String}
    {operation : RelatedQuery (Workplace σ) → Action (Workplace σ) α}
    (attends : ∀ query : RelatedQuery (Workplace σ),
      query.repository = Repository.over registry entity config session scope →
        Attentive laws none scope (operation query)) :
    Attentive laws none scope (do
      let query ← Repository.lift (RelatedQuery.make
        (Repository.over registry entity config session scope) owner relation)
      operation query) :=
  .after fun query made => attends query (RelatedQuery.repository_of_make made)

section Related

variable {query : RelatedQuery (Workplace σ)}
  (isOver : query.repository = Repository.over registry entity config session scope)

include isOver

theorem RelatedQuery.attentive_fetch (filter : Option Filter) :
    Attentive laws none scope (query.fetch filter) := by
  unfold RelatedQuery.fetch
  rw [isOver]
  refine .within (Heeds.bind (heeds_load _ _) fun owner => ?_)
  cases owner with
  | none => exact .pure none
  | some owner =>
      dsimp only
      split
      · exact .pure (some [])
      · refine Heeds.bind (.lift _) fun level => Heeds.bind (.lift _) fun select => ?_
        exact Heeds.bind (.demand (.fetchAll select)) fun rows => .pure _

theorem RelatedQuery.attentive_insert (values : Record) :
    Attentive laws none scope (query.insert values) := by
  unfold RelatedQuery.insert
  rw [isOver]
  refine .after fun values _ => .within (Heeds.bind (heeds_load _ _) fun owner => ?_)
  cases owner with
  | none => exact .pure none
  | some owner =>
      refine Heeds.bind (.lift _) fun key => ?_
      dsimp only
      split
      · exact Heeds.bind (Repository.heeds_insertRow _ _ _) fun row => .pure (some row)
      · refine Heeds.bind (Repository.heeds_insertRow _ _ _) fun row => ?_
        exact Heeds.bind (query.heeds_link owner row) fun _ => .pure (some row)

theorem RelatedQuery.attentive_relate (target : Value) :
    Attentive laws none scope (query.relate target) := by
  unfold RelatedQuery.relate
  rw [isOver]
  refine .within (Heeds.bind (heeds_load _ _) fun owner => ?_)
  cases owner with
  | none => exact .pure none
  | some owner =>
      refine Heeds.bind (heeds_load _ _) fun row => ?_
      cases row with
      | none => exact .pure none
      | some row =>
          dsimp only
          split
          · refine Heeds.bind (.lift _) fun key => ?_
            exact Heeds.bind (heeds_change _) fun _ => heeds_load _ _
          · exact Heeds.bind (query.heeds_link owner row) fun _ => .pure (some row)

end Related

end Form

/-! ## Calls -/

/-- A call of a reading operation, by the type of its value. -/
inductive ReadCall (σ : Type) : Type → Type where
  | fetch (filter : Option Filter) (eager : ExpressionSource Filter) (allow : AllowSource Filter)
      (filters : List (String × Option Filter)) (cancel : Option (σ → Bool)) :
      ReadCall σ (List Record)
  | findById (key : Value) (eager : ExpressionSource Filter) (allow : AllowSource Filter)
      (filters : List (String × Option Filter)) : ReadCall σ (Option Record)
  | fetchRelated (owner : Value) (relation : String) (filter : Option Filter) :
      ReadCall σ (Option (List Record))

namespace ReadCall

variable {α : Type}

def perform (repository : Repository (Workplace σ)) : ReadCall σ α → Action (Workplace σ) α
  | .fetch filter eager allow filters cancel =>
      repository.fetch filter eager allow filters (watched cancel)
  | .findById key eager allow filters => repository.findById key eager allow filters
  | .fetchRelated owner relation filter => do
      let query ← Repository.lift (RelatedQuery.make repository owner relation)
      query.fetch filter

def cancelEvent : ReadCall σ α → Option (σ → Bool)
  | .fetch _ _ _ _ cancel => cancel
  | _ => none

theorem attentive_perform (laws : Transactional control session Data) (registry : Registry)
    (entity : Entity) (config : Config) (scope : Option (Scope (Workplace σ)))
    (call : ReadCall σ α) :
    Attentive laws call.cancelEvent scope
      (call.perform (Repository.over registry entity config session scope)) := by
  cases call with
  | fetch filter eager allow filters cancel => exact attentive_fetch filter eager allow filters
  | findById key eager allow filters => exact attentive_findById key eager allow filters
  | fetchRelated owner relation filter =>
      exact .related fun query isOver => query.attentive_fetch isOver filter

end ReadCall

theorem WriteCall.attentive_perform {α : Type} (laws : Transactional control session Data)
    (registry : Registry) (entity : Entity) (config : Config)
    (scope : Option (Scope (Workplace σ))) (call : WriteCall σ α) :
    Attentive laws call.cancelEvent scope
      (call.perform (Repository.over registry entity config session scope)) := by
  cases call with
  | insertGraph payload allow conflict cancel =>
      exact attentive_insertGraph payload allow conflict
  | insert values conflict => exact attentive_insert values conflict
  | insertReturning rows conflict => exact attentive_insertReturning rows conflict
  | patchById key values => exact attentive_patchById key values
  | deleteById key => exact attentive_deleteById key
  | insertRelated owner relation values =>
      exact .related fun query isOver => query.attentive_insert isOver values
  | relate owner relation target =>
      exact .related fun query isOver => query.attentive_relate isOver target

/-- A call of any operation of a repository. -/
inductive RepositoryCall (σ α : Type) where
  | write (call : WriteCall σ α)
  | read (call : ReadCall σ α)

namespace RepositoryCall

variable {α : Type}

def perform (repository : Repository (Workplace σ)) : RepositoryCall σ α → Action (Workplace σ) α
  | .write call => call.perform repository
  | .read call => call.perform repository

def cancelEvent : RepositoryCall σ α → Option (σ → Bool)
  | .write call => call.cancelEvent
  | .read call => call.cancelEvent

theorem attentive_perform (laws : Transactional control session Data) (registry : Registry)
    (entity : Entity) (config : Config) (scope : Option (Scope (Workplace σ)))
    (call : RepositoryCall σ α) :
    Attentive laws call.cancelEvent scope
      (call.perform (Repository.over registry entity config session scope)) := by
  cases call with
  | write call => exact call.attentive_perform laws registry entity config scope
  | read call => exact call.attentive_perform laws registry entity config scope

end RepositoryCall

/-! ## Classes -/

/-- How statements that did not succeed have ended a call. Those that the database has refused are
reported in their class, and those that the toolkit has refused are not. -/
structure EndsInClass {α : Type} (issues : List (Issue σ)) (result : Except Error α) : Prop where
  refused : ∀ issue ∈ issues, ∀ refusal, issue.reply = .refused refusal → refusal.isRaised = true →
    result = .error refusal.toError ∧
      (refusal.toError.kind = refusal.taxon ↔ refusal.isDatabase = true)
  overtaken : ∀ issue ∈ issues, issue.reply = .overtaken →
    ∃ failure, result = .error failure ∧ failure.kind = .cancelled

theorem EndsInClass.of_broken {α : Type} {issues : List (Issue σ)} {result : Except Error α}
    (broken : ∀ issue ∈ issues, ∀ failure, Executor.outcomeOf issue.reply = .error failure →
      result = .error failure) : EndsInClass issues result where
  refused := by
    intro issue member refusal isRefused isRaised
    refine ⟨broken issue member _ (by rw [isRefused]; rfl), ?_⟩
    exact Refusal.kind_toError_eq_taxon_iff isRaised
  overtaken := by
    intro issue member isOvertaken
    exact ⟨_, broken issue member _ (by rw [isOvertaken]; rfl), rfl⟩

/-- A statement that does not succeed ends the call that has issued it, be it a call of an executor
or of an operation of a repository. It is reported in the class that the taxonomy has for it if it
was the database that refused it, or if it was cancelled. -/
theorem Session.failures_end_in_class (session : Session σ) :
    (∀ {α : Type} (cancel : Option (σ → Bool)) (demand : Demand α) (before : Workplace σ),
      let run := demand.perform (unitExecutor session cancel) before
      ∃ issues, demand.Answers session cancel before issues run.1 run.2 ∧
        EndsInClass issues run.1) ∧
    ∀ {α Data : Type} {control : SessionControl σ} (_ : Transactional control session Data)
      (registry : Registry) (entity : Entity) (config : Config) (call : RepositoryCall σ α)
      (hasFactory : Bool) (before : Workplace σ),
      let fresh := call.perform (Repository.over registry entity config session
        (if hasFactory then some (unitScope control) else none)) before
      let borrowed := call.perform (Repository.over registry entity config session
        (some Scope.entered)) before
      (control.inTransaction before.world.world = false →
        ∃ events, Reports session before events fresh.1 fresh.2 ∧
          EndsInClass (events.filterMap Event.issue?) fresh.1) ∧
      ∃ events, Reports session before events borrowed.1 borrowed.2 ∧
        EndsInClass (events.filterMap Event.issue?) borrowed.1 := by
  refine ⟨fun cancel demand before => ?_, fun laws registry entity config call hasFactory before =>
    ⟨fun closed => ?_, ?_⟩⟩
  · obtain ⟨issues, answers⟩ := demand.answers_perform session cancel before
    exact ⟨issues, answers, .of_broken answers.reported.broken⟩
  · obtain ⟨events, reports⟩ :=
      (call.attentive_perform laws registry entity config _).fresh closed
    exact ⟨events, reports, .of_broken reports.broken⟩
  · obtain ⟨events, reports⟩ :=
      (call.attentive_perform laws registry entity config _).borrowed before
    exact ⟨events, reports, .of_broken reports.broken⟩

/-! ## A register of guests -/

namespace GuestBook

def guestTable : Table where
  name := "guest"
  columns := [
    { name := "id", type := .integer, primaryKey := true },
    { name := "vip", type := .boolean }]

def guest : Entity where
  name := "guest"
  table := guestTable
  key := { name := "id", type := .integer, primaryKey := true }
  relations := []

def registry : Registry where
  schema := [guestTable]
  entities := [guest]
  frozen := true

def workplace : Workplace Database where
  world := { world := { store := Store.empty registry.schema } }
  holdsSession := false

/-- A guest of whom it is written that it may be an important one. -/
def undecided : Record := [("vip", .text "maybe")]

def receive : RepositoryCall Database (Option Record) := .write (.insert undecided none)

/-- An insert that the toolkit refuses, in a unit of work of its own. -/
theorem receive_ends_in_class :
    Database.control.inTransaction workplace.world.world = false ∧
      ∃ events, Reports Database.session workplace events
        (receive.perform (Repository.over registry guest {} Database.session
          (some (unitScope Database.control))) workplace).1
        (receive.perform (Repository.over registry guest {} Database.session
          (some (unitScope Database.control))) workplace).2 ∧
      EndsInClass (events.filterMap Event.issue?)
        (receive.perform (Repository.over registry guest {} Database.session
          (some (unitScope Database.control))) workplace).1 := by
  have closed : Database.control.inTransaction workplace.world.world = false := rfl
  refine ⟨closed, ?_⟩
  exact ((Session.failures_end_in_class Database.session).2 Database.transactional registry guest {}
    receive true workplace).1 closed

/-- The insert of a guest, of which the boolean column does not take the value. -/
def insertion : CompiledInsert where
  statement := { table := guestTable, rows := [undecided], conflict := .nothing, returning := true }
  policy := none
  contract := { returning := true, maySuppress := false }
  dialect := .sqlite

/-- A value that a column does not take is refused by the toolkit, and the failure passes through
the executor and the repository as it is. -/
theorem misbound_value_escapes :
    CompiledInsert.compile guestTable [undecided] .sqlite none none = .ok insertion ∧
    (Database.session.run (.insert insertion.statement) workplace.world.world).1 =
      .refused (.other (.foreign .invalidBinding)) ∧
    (Refusal.other (.foreign .invalidBinding)).isRaised = true ∧
    (Refusal.other (.foreign .invalidBinding)).taxon = .statement ∧
    ((Demand.runInsert insertion).perform (unitExecutor Database.session none) workplace).1 =
      .error (.foreign .invalidBinding) ∧
    (receive.perform (Repository.over registry guest {} Database.session
      (some (unitScope Database.control))) workplace).1 = .error (.foreign .invalidBinding) ∧
    (Error.foreign .invalidBinding).kind = .foreign :=
  ⟨rfl, rfl, rfl, rfl, rfl, rfl, rfl⟩

end GuestBook

end RecordGraph
