import RecordGraph.Proofs.Execution.Agreement
import RecordGraph.Proofs.Fetch.Exposure
import RecordGraph.Proofs.Store.Answer
import RecordGraph.Repository

/-!
Contract: a fetch discloses nothing outside its allow-list.

Owns: agreement of stores on tables, what selections and the scope of the database in memory tell of
a store, and the results of one fetch on two databases.
Does not own: which tables an allow-list exposes.

Two runs of a fetch are compared, on databases that need not have anything in common but the tables
that the allow-list exposes. The plan is the same in both, its queries read exposed tables only, and
so level after level is fetched for the same keys and gives the same rows.
-/

namespace RecordGraph

open RecordGraph.Sql

/-- Whether two stores have the same rows in certain tables. -/
def Store.AgreeOn (tables : Table → Prop) (left right : Store) : Prop :=
  ∀ table, tables table → left.tableOf table = right.tableOf table

theorem Sql.Select.evaluate_congr {tables : Table → Prop} {left right : Store} {select : Select}
    (agree : left.AgreeOn tables right) (reads : select.Reads tables) :
    select.evaluate left = select.evaluate right := by
  have same : select.candidates left = select.candidates right := by
    unfold candidates
    cases isJoin : select.join with
    | none =>
        dsimp only
        rw [agree _ reads.table]
    | some join =>
        dsimp only [joinedCells]
        rw [agree _ reads.table, agree _ (reads.through join isJoin)]
  rw [evaluate, evaluate, same]

namespace Database

/-! ## Selections -/

/-- A selection leaves the tables as they are. -/
theorem store_run_select (query : Select) (database : Database) :
    (run (.select query) database).2.store = database.store := by
  have answers := run_answers (.select query) database
  cases isAnswer : answer (.select query) database.store with
  | error refusal =>
      rw [isAnswer] at answers
      exact answers.2
  | ok answered =>
      obtain ⟨store, cursor⟩ := answered
      rw [isAnswer] at answers
      obtain ⟨_, _, evaluated, _⟩ := answer_eq_ok_iff.1 isAnswer
      rw [answers.2]
      exact (Prod.mk.inj (Except.ok.inj evaluated)).1.symm

/-- The reply to a selection is told by the selected rows. -/
theorem reply_run_select {query : Select} {left right : Database}
    (same : query.evaluate left.store = query.evaluate right.store) :
    (run (.select query) left).1 = (run (.select query) right).1 := by
  unfold run
  dsimp only
  cases (Statement.select query).text .sqlite with
  | error fault => rfl
  | ok rendered =>
      dsimp only
      cases boundValues rendered.parameters with
      | none => rfl
      | some values =>
          unfold execute
          dsimp only [prepare]
          cases firstRefusal 1 values with
          | some refusal => rfl
          | none =>
              dsimp only [Statement.evaluate, write, start]
              rw [same]
              split <;> rfl

/-- Whether two units of work hold a session or not alike, on databases that agree on tables. -/
structure Alike (tables : Table → Prop) (left right : UnitState Database) : Prop where
  holds : left.holdsSession = right.holdsSession
  stores : left.world.store.AgreeOn tables right.world.store

variable {tables : Table → Prop}

/-- What a selection gives is told by the tables that it reads. -/
theorem fetchAll_agrees {query : Select} (reads : query.Reads tables) :
    ((executor none).fetchAll query).Agrees (Alike tables) (Alike tables) := by
  refine Action.Agrees.bind ?_ (fun cursor => .pure cursor.rows) fun _ _ => id
  intro left right alike
  rw [issue_apply, issue_apply]
  refine ⟨?_, alike.holds, ?_⟩
  · rw [reply_run_select (Select.evaluate_congr alike.stores reads)]
  · dsimp only
    rw [store_run_select, store_run_select]
    exact alike.stores

/-! ## Scopes -/

/-- A unit of work begins a transaction unless there is one. -/
theorem scope_enter_of_any (database : Database) (holds : Bool) :
    ∃ entered, scope.enter ⟨database, holds⟩ = (.ok (), ⟨entered, true⟩) ∧
      entered.store = database.store := by
  rcases database with ⟨store, transaction, log⟩
  cases transaction with
  | none => exact ⟨_, scope_enter rfl holds, rfl⟩
  | some transaction => exact ⟨_, rfl, rfl⟩

/-- Whether a unit of work can be left is not told by its database. -/
theorem scope_leave_result (failure : Option Error) (left right : Database) (holds : Bool) :
    (scope.leave failure ⟨left, holds⟩).1 = (scope.leave failure ⟨right, holds⟩).1 := by
  rcases left with ⟨store, transaction, log⟩
  rcases right with ⟨store', transaction', log'⟩
  cases holds <;> cases failure <;> cases transaction <;> cases transaction' <;> rfl

theorem scope_agrees : scope.Agrees (Alike tables) where
  enter left right alike := by
    obtain ⟨entered, enteredLeft, sameLeft⟩ := scope_enter_of_any left.world left.holdsSession
    obtain ⟨entered', enteredRight, sameRight⟩ := scope_enter_of_any right.world right.holdsSession
    rw [enteredLeft, enteredRight]
    refine ⟨rfl, rfl, ?_⟩
    dsimp only
    rw [sameLeft, sameRight]
    exact alike.stores
  leave failure left right alike := by
    rcases left with ⟨left, holds⟩
    rcases right with ⟨right, holds'⟩
    cases alike.holds
    exact ⟨scope_leave_result failure left right holds, trivial⟩

end Database

namespace Repository

/-! ## Plans -/

section Plans

variable {σ : Type} {executor : Executor σ} {tables : Table → Prop} {alike : σ → σ → Prop}

theorem fetchLevel_agrees
    (fetches : ∀ query : Select, query.Reads tables → (executor.fetchAll query).Agrees alike alike)
    {level : FetchLevel} (reads : level.statement.Reads tables) (parents : List Record) :
    (fetchLevel executor level parents).Agrees alike alike := by
  unfold fetchLevel
  refine .ofExcept_bind (fun keys _ => ?_) fun _ _ => id
  have keyed : ∀ rows, Action.Agrees alike alike (lift (level.keyedRows rows) : Action σ _) :=
    fun rows => .ofExcept _
  dsimp only
  split
  · exact keyed []
  · refine .ofExcept_bind (fun query built => ?_) fun _ _ => id
    have sameColumns := FetchLevel.sameColumns_of_build built
    exact (fetches query (reads.of_same sameColumns)).bind keyed fun _ _ => id

/-- Levels are fetched for the rows that the earlier ones gave. -/
theorem fetchLevels_agrees
    (fetches : ∀ query : Select, query.Reads tables → (executor.fetchAll query).Agrees alike alike)
    (roots : List Record) : ∀ {levels : List FetchLevel} (fetched : FetchPlan.LevelRows),
      (∀ level ∈ levels, level.statement.Reads tables) →
        (fetchLevels executor roots fetched levels).Agrees alike alike := by
  intro levels
  induction levels with
  | nil => exact fun fetched _ => .pure fetched
  | cons level rest inductionHypothesis =>
      intro fetched reads
      rw [List.forall_mem_cons] at reads
      refine (fetchLevel_agrees fetches reads.1 _).bind (fun rows => ?_) fun _ _ => id
      exact inductionHypothesis _ reads.2

/-- A plan gives the same where its queries do. -/
theorem executeFetchPlan_agrees
    (fetches : ∀ query : Select, query.Reads tables → (executor.fetchAll query).Agrees alike alike)
    {plan : FetchPlan} (reads : plan.Reads tables) :
    (executeFetchPlan plan executor).Agrees alike alike := by
  refine (fetches plan.root reads.root).bind (fun roots => ?_) fun _ _ => id
  refine (fetchLevels_agrees fetches roots [] reads.levels).bind (fun fetched => ?_) fun _ _ => id
  exact .pure _

end Plans

/-! ## Fetches -/

/-- A fetch gives the same rows, or the same error, on any two databases that agree on the tables
that its allow-list exposes. -/
theorem fetch_confined {registry : Registry} {entity : String} {config : Config}
    {scope : Option (Scope (UnitState Database))} {repository : Repository (UnitState Database)}
    (made : Repository.make registry entity config scope Database.executor = .ok repository)
    (isScope : ∀ own, scope = some own → own = Database.scope ∨ own = Scope.entered)
    {source : AllowSource Filter} {allowed : RelationTree Filter}
    (restricted : source.read = .ok (.within allowed)) {left right : Database}
    (agree : left.store.AgreeOn (registry.Exposes entity allowed) right.store)
    (filter : Option Filter) (eager : ExpressionSource Filter)
    (filters : List (String × Option Filter)) (holds : Bool) :
    (repository.fetch filter eager source filters none ⟨left, holds⟩).1 =
      (repository.fetch filter eager source filters none ⟨right, holds⟩).1 := by
  obtain ⟨found, isEntity, made⟩ := Result.bind_eq_ok.1 made
  obtain ⟨_, _, made⟩ := Result.bind_eq_ok.1 made
  cases Result.pure_eq_ok.1 made
  cases (Registry.entity_eq_ok isEntity).2
  have agrees : (Repository.fetch ⟨registry, found, config, scope, Database.executor⟩ filter eager
      source filters none).Agrees (Database.Alike (registry.Exposes found.name allowed))
        fun _ _ => True := by
    refine .ofExcept_bind (fun plan planned => ?_) fun _ _ _ => trivial
    have body := executeFetchPlan_agrees (fun _ => Database.fetchAll_agrees)
      (FetchPlan.reads_exposed planned restricted)
    unfold within
    cases scope with
    | none => exact fun _ _ _ => ⟨rfl, trivial⟩
    | some own =>
        rcases isScope own rfl with rfl | rfl
        · exact Database.scope_agrees.within body
        · exact (Scope.entered_agrees _).within body
  exact (agrees ⟨left, holds⟩ ⟨right, holds⟩ ⟨rfl, agree⟩).1

end Repository

/-! ## Tables of a family that are not exposed -/

namespace Family

def personRow (number : Int) (name : String) (parent : Cell) : StoredRow where
  number
  cells := [("id", .int number), ("name", .text name), ("parentId", parent)]

def people : StoredTable where
  table := personTable
  rows := [personRow 1 "Jo" .null, personRow 2 "Cy" (.int 1)]

/-- A family with a word for one of its members. -/
def worded : Database where
  store := { tables := [people,
    { table := tagTable, rows := [⟨1, [("id", .int 1), ("word", .text "kin")]⟩] },
    { table := labelTable,
      rows := [⟨1, [("id", .int 1), ("personId", .int 2), ("tagId", .int 1)]⟩] }] }

/-- The family in a session that is in use, and without tables for words. -/
def wordless : Database where
  store := { tables := [people], lastNumber := 2 }
  transaction := some { saved := [], started := true }

def album : Repository (UnitState Database) where
  registry := registry
  entity := person
  config := {}
  scope := some Database.scope
  executor := Database.executor

def onlyChildren : RelationTree Filter := .cons "children" none .nil .nil

theorem reaches_onlyChildren {trail : List String} {relation : Relation}
    (isTrail : trail ∈ onlyChildren.trails) (reaches : registry.Reaches "Person" trail relation) :
    relation = children := by
  have isSingle : trail = ["children"] := List.mem_singleton.1 isTrail
  cases reaches with
  | first resolves =>
      cases isSingle
      exact (Except.ok.inj resolves).symm
  | next reaches resolves =>
      have isNil := (List.append_eq_singleton_iff.1 isSingle).resolve_right (by simp)
      exact absurd isNil.1 reaches.ne_nil

theorem exposes_onlyChildren {table : Table}
    (exposes : registry.Exposes "Person" onlyChildren table) : table = personTable := by
  cases exposes with
  | root isEntity =>
      cases isEntity
      rfl
  | target isTrail reaches isTarget =>
      cases reaches_onlyChildren isTrail reaches
      cases isTarget
      rfl
  | through isTrail reaches isThrough =>
      cases reaches_onlyChildren isTrail reaches
      cases isThrough

/-- Whoever may fetch the children cannot tell whether there are words. -/
theorem children_confined :
    (FetchPlan.make registry {} "Person" none (.tree onlyChildren)
      (.expression (.tree onlyChildren)) []).isOk = true ∧
    (worded.store.tableOf tagTable).rows.length ≠ (wordless.store.tableOf tagTable).rows.length ∧
    (album.fetch none (.tree onlyChildren) (.expression (.tree onlyChildren)) [] none
        ⟨worded, false⟩).1 =
      (album.fetch none (.tree onlyChildren) (.expression (.tree onlyChildren)) [] none
        ⟨wordless, false⟩).1 := by
  have made : Repository.make registry "Person" {} (some Database.scope) Database.executor =
      .ok album := rfl
  have isScope : ∀ own, some Database.scope = some own →
      own = Database.scope ∨ own = Scope.entered :=
    fun own isOwn => Or.inl (Option.some.inj isOwn).symm
  have restricted : (AllowSource.expression (.tree onlyChildren)).read =
      .ok (.within onlyChildren) := rfl
  have agree : worded.store.AgreeOn (registry.Exposes "Person" onlyChildren) wordless.store := by
    intro table exposes
    cases exposes_onlyChildren exposes
    rfl
  exact ⟨rfl, by decide, Repository.fetch_confined made isScope restricted agree none
    (.tree onlyChildren) [] false⟩

end Family

end RecordGraph
