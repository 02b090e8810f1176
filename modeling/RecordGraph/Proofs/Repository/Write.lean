import RecordGraph.Proofs.Execution.Unit
import RecordGraph.Proofs.Insert.Compile
import RecordGraph.Proofs.Result
import RecordGraph.Repository

/-!
Contract: what the writing operations of a repository do inside their unit of work.

Owns: the statements of an executed insert plan, and that every writing operation is a body that
does nothing but issue statements, in its scope.
Does not own: the beginning and the end of the scope.
-/

namespace RecordGraph

open RecordGraph.Sql

variable {σ Data : Type} {control : SessionControl σ} {session : Session σ}
variable {laws : Transactional control session Data} {cancel : Option (σ → Bool)}

section Composition

variable {α β : Type}

/-- A computation without a world comes before the statements. -/
theorem Runs.after {result : Result α} {next : α → Action (Workplace σ) β}
    {expected : β → List Statement → Prop}
    (tail : ∀ value, result = .ok value → Runs laws cancel (next value) expected) :
    Runs laws cancel (Repository.lift result >>= next) expected := by
  cases isResult : result with
  | error failure => exact .throw failure expected
  | ok value => exact tail value isResult

theorem Issues.after {result : Result α} {next : α → Action (Workplace σ) β}
    (tail : ∀ value, Issues laws cancel (next value)) :
    Issues laws cancel (Repository.lift result >>= next) :=
  Runs.after fun value _ => tail value

theorem Issues.lift (result : Result α) :
    Issues laws cancel (Repository.lift result : Action (Workplace σ) α) :=
  .of_runs (.ofExcept result)

theorem Issues.pure (value : α) : Issues laws cancel (Pure.pure value : Action (Workplace σ) α) :=
  .of_runs (.pure value)

end Composition

/-! ## Insert plans -/

/-- Whether statements insert the row of an operation, given the rows of the earlier ones. -/
def Operation.Inserts (dialect : Dialect) (returning : Option Bool) (operation : Operation)
    (rows : InsertPlan.Rows) (statements : List Statement) : Prop :=
  ∃ values compiled, InsertPlan.resolveValues operation rows = .ok values ∧
    CompiledInsert.compile operation.table [values] dialect operation.conflict returning =
      .ok compiled ∧ InsertsOnce compiled.statement statements

/-- Whether statements insert the rows of operations, each once and in order. -/
inductive InsertsInOrder (dialect : Dialect) (returning : Option Bool) :
    InsertPlan.Rows → List Operation → List Statement → InsertPlan.Rows → Prop where
  | nil (rows : InsertPlan.Rows) : InsertsInOrder dialect returning rows [] [] rows
  | cons {rows last : InsertPlan.Rows} {operation : Operation} {operations : List Operation}
      {row : Option Record} {head tail : List Statement}
      (first : operation.Inserts dialect returning rows head)
      (rest : InsertsInOrder dialect returning (rows ++ [(operation.index, row)]) operations tail
        last) :
      InsertsInOrder dialect returning rows (operation :: operations) (head ++ tail) last

theorem runs_executeOperation (repository : Repository (Workplace σ)) (plan : InsertPlan)
    (rows : InsertPlan.Rows) (operation : Operation) :
    Runs laws cancel
      (repository.executeOperation plan (unitExecutor session cancel) rows operation)
      fun rows' statements =>
        operation.Inserts session.dialect repository.config.useReturning rows statements ∧
          ∃ row, rows' = rows ++ [(operation.index, row)] := by
  unfold Repository.executeOperation
  refine Runs.after fun values resolved => Runs.after fun compiled compiles => ?_
  have isSingle := (CompiledInsert.statement_of_compile compiles).2.1
  refine (Runs.bind (runs_runInsert_single laws cancel isSingle) fun touched =>
    Runs.bind (Runs.ofExcept (compiled.contract.one touched)) fun row =>
      show Runs laws cancel _ fun rows' statements =>
        rows' = rows ++ [(operation.index, row)] ∧ statements = [] from ?_).mono ?_
  · split
    · exact .throw _ _
    · exact .pure _
  · rintro rows' _ ⟨_, _, _, rfl, inserts, row, _, _, rfl, ⟨_, rfl⟩, rfl, rfl⟩
    refine ⟨⟨values, compiled, resolved, compiles, ?_⟩, row, rfl⟩
    rw [List.append_nil, List.append_nil]
    exact inserts

theorem runs_executeInsertPlan (repository : Repository (Workplace σ)) (plan : InsertPlan) :
    Runs laws cancel (repository.executeInsertPlan plan (unitExecutor session cancel))
      fun rows statements =>
        InsertsInOrder session.dialect repository.config.useReturning [] plan.operations statements
          rows := by
  have walk : ∀ (operations : List Operation) (rows : InsertPlan.Rows),
      Runs laws cancel
        (operations.foldlM (repository.executeOperation plan (unitExecutor session cancel)) rows)
        fun last statements =>
          InsertsInOrder session.dialect repository.config.useReturning rows operations statements
            last := by
    intro operations
    induction operations with
    | nil =>
        intro rows
        rw [List.foldlM_nil]
        refine (Runs.pure rows).mono ?_
        rintro _ _ ⟨rfl, rfl⟩
        exact .nil _
    | cons operation rest inductionHypothesis =>
        intro rows
        rw [List.foldlM_cons]
        refine (Runs.bind (runs_executeOperation repository plan rows operation)
          inductionHypothesis).mono ?_
        rintro last _ ⟨_, head, tail, rfl, ⟨inserts, row, rfl⟩, others⟩
        exact .cons inserts others
  exact walk plan.operations []

/-! ## Other bodies -/

theorem issues_compileAndRun (repository : Repository (Workplace σ)) (table : Table)
    (rows : List Record) (conflict : Option ConflictPolicy) :
    Issues laws cancel
      (repository.compileAndRun (unitExecutor session cancel) table rows conflict) :=
  Issues.after fun compiled => .bind (issues_runInsert laws cancel compiled) fun touched =>
    .pure (compiled, touched)

theorem issues_insertRow (repository : Repository (Workplace σ)) (table : Table)
    (values : Record) :
    Issues laws cancel (repository.insertRow (unitExecutor session cancel) table values) := by
  refine .bind (issues_compileAndRun repository table [values] none) fun outcome => ?_
  refine Issues.after fun row => ?_
  cases row with
  | none => exact .throw _ _
  | some row => exact .pure row

namespace RelatedQuery

variable (query : RelatedQuery (Workplace σ))

theorem issues_load (entity : Entity) (key : Value) :
    Issues laws cancel (RelatedQuery.load (unitExecutor session cancel) entity key) := by
  unfold RelatedQuery.load
  by_cases isNull : key.isNull = true
  · rw [if_pos isNull]
    exact .pure none
  · rw [if_neg isNull]
    exact issues_fetchOne laws cancel _

theorem issues_link (owner target : Record) :
    Issues laws cancel (query.link (unitExecutor session cancel) owner target) := by
  unfold RelatedQuery.link
  dsimp only
  split
  · refine Issues.after fun key => .bind (issues_change laws cancel _) fun _ => .pure ()
  · exact .throw _ _
  · refine Issues.after fun table => Issues.after fun source => Issues.after fun destination => ?_
    exact .bind (issues_insertRow query.repository table _) fun _ => .pure ()

end RelatedQuery

/-! ## The form of the operations -/

/-- The repository of an entity over a session that keeps a journal. -/
def Repository.over (registry : Registry) (entity : Entity) (config : Config) (session : Session σ)
    (scope : Option (Scope (Workplace σ))) : Repository (Workplace σ) where
  registry := registry
  entity := entity
  config := config
  scope := scope
  executor := Executor.ofSession session.journaled.inUnit

section Form

variable {registry : Registry} {entity : Entity} {config : Config}
variable {scope : Option (Scope (Workplace σ))} {α β : Type}
variable {expected : α → List Statement → Prop}

theorem Scoped.within {body : Executor (Workplace σ) → Action (Workplace σ) α}
    (runs : Runs laws cancel (body (unitExecutor session cancel)) expected) :
    Scoped laws cancel expected scope
      ((Repository.over registry entity config session scope).within (watched cancel) body) := by
  refine .runs _ id runs ?_
  rw [id_map]
  cases scope <;> rfl

theorem Scoped.after {result : Result β} {next : β → Action (Workplace σ) α}
    (tail : ∀ value, result = .ok value → Scoped laws cancel expected scope (next value)) :
    Scoped laws cancel expected scope (Repository.lift result >>= next) := by
  cases isResult : result with
  | error failure => exact .refused failure rfl
  | ok value => exact tail value isResult

theorem scoped_insert (values : Record) (conflict : Option ConflictPolicy) :
    Scoped laws none (fun _ _ => True) scope
      ((Repository.over registry entity config session scope).insert values conflict) := by
  refine Scoped.after fun values _ => Scoped.within ?_
  refine Issues.bind (issues_compileAndRun _ _ _ _) fun outcome => ?_
  exact Issues.lift (outcome.1.contract.one outcome.2)

theorem scoped_insertReturning {rows : List Record} (isNonempty : rows.isEmpty = false)
    (conflict : Option ConflictPolicy) :
    Scoped laws none (fun _ _ => True) scope
      ((Repository.over registry entity config session scope).insertReturning rows conflict) := by
  unfold Repository.insertReturning
  rw [isNonempty, if_neg Bool.false_ne_true]
  refine Scoped.after fun values _ => Scoped.within ?_
  refine Issues.bind (issues_compileAndRun _ _ _ _) fun outcome => ?_
  exact Issues.pure (outcome.1.contract.many outcome.2)

theorem scoped_patchById (key : Value) (values : Record) :
    Scoped laws none (fun _ _ => True) scope
      ((Repository.over registry entity config session scope).patchById key values) := by
  refine Scoped.after fun values _ => Scoped.within ?_
  have selects : ∀ missing : Bool, Issues laws none
      (if missing = true then pure none
        else (unitExecutor session none).fetchOne
          (Repository.selectByKey entity ((values.get? entity.key.name).getD key))) := by
    intro missing
    cases missing with
    | false => exact issues_fetchOne laws none _
    | true => exact Issues.pure none
  by_cases isEmpty : values.isEmpty = true
  · rw [if_pos isEmpty]
    exact Issues.bind (Issues.pure false) selects
  · rw [if_neg isEmpty]
    refine Issues.bind (issues_change laws none _) fun count => ?_
    exact Issues.bind (Issues.pure (count == 0)) selects

theorem scoped_deleteById (key : Value) :
    Scoped laws none (fun _ _ => True) scope
      ((Repository.over registry entity config session scope).deleteById key) :=
  Scoped.within (issues_change laws none _)

theorem scoped_insertGraph (payload : Payload) (allow : AllowSource Filter)
    (conflict : Option ConflictPolicy) :
    Scoped laws cancel
      (fun value statements => ∃ plan rows,
        InsertPlan.make registry config entity.name payload allow conflict = .ok plan ∧
          InsertsInOrder session.dialect config.useReturning [] plan.operations statements rows ∧
            value = plan.assemble rows)
      scope
      ((Repository.over registry entity config session scope).insertGraph payload allow conflict
        (watched cancel)) := by
  refine Scoped.after fun plan planned => ?_
  have runs : Runs laws cancel
      ((Repository.over registry entity config session scope).executeInsertPlan plan
        (unitExecutor session cancel)) fun rows statements =>
      InsertsInOrder session.dialect config.useReturning [] plan.operations statements rows :=
    runs_executeInsertPlan _ plan
  refine .runs _ plan.assemble (runs.mono fun rows statements inserts => ?_) ?_
  · exact ⟨plan, rows, planned, inserts, rfl⟩
  · cases scope <;> rfl

theorem RelatedQuery.repository_of_make {repository : Repository (Workplace σ)} {owner : Value}
    {relation : String} {query : RelatedQuery (Workplace σ)}
    (made : RelatedQuery.make repository owner relation = .ok query) :
    query.repository = repository := by
  rcases Result.bind_eq_ok.1 made with ⟨relation, _, made⟩
  rcases Result.bind_eq_ok.1 made with ⟨target, _, made⟩
  rw [← Result.pure_eq_ok.1 made]

theorem RelatedQuery.scoped_insert {query : RelatedQuery (Workplace σ)}
    (isOver : query.repository = Repository.over registry entity config session scope)
    (values : Record) :
    Scoped laws none (fun _ _ => True) scope (query.insert values) := by
  unfold RelatedQuery.insert
  rw [isOver]
  refine Scoped.after fun values _ => Scoped.within ?_
  refine Issues.bind (issues_load _ _) fun owner => ?_
  cases owner with
  | none => exact Issues.pure none
  | some owner =>
      refine Issues.after fun key => ?_
      dsimp only
      split
      · refine Issues.bind (issues_insertRow _ _ _) fun row => ?_
        exact Issues.pure (some row)
      · refine Issues.bind (issues_insertRow _ _ _) fun row => ?_
        exact Issues.bind (query.issues_link owner row) fun _ => Issues.pure (some row)

theorem RelatedQuery.scoped_relate {query : RelatedQuery (Workplace σ)}
    (isOver : query.repository = Repository.over registry entity config session scope)
    (targetKey : Value) :
    Scoped laws none (fun _ _ => True) scope (query.relate targetKey) := by
  unfold RelatedQuery.relate
  rw [isOver]
  refine Scoped.within ?_
  refine Issues.bind (issues_load _ _) fun owner => ?_
  cases owner with
  | none => exact Issues.pure none
  | some owner =>
      refine Issues.bind (issues_load _ _) fun target => ?_
      cases target with
      | none => exact Issues.pure none
      | some target =>
          dsimp only
          split
          · refine Issues.after fun key => ?_
            exact Issues.bind (issues_change laws none _) fun _ => issues_load _ _
          · exact Issues.bind (query.issues_link owner target) fun _ => Issues.pure (some target)

end Form

end RecordGraph
