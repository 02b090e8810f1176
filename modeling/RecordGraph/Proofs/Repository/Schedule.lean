import RecordGraph.Proofs.Plan.Levels
import RecordGraph.Proofs.Repository.Stored

/-!
Contract: the execution of an insert plan in another order than that of the plan.

Owns: orders in which every operation comes after those that it needs, `Executes`, the course of an
execution, `Repository.Keeps`, the rows that later operations copy from, and that the batches of a plan
may be executed in any order inside each of them.
Does not own: executors whose answers depend on what was executed before.

What an operation is given depends on the rows of the operations that it needs and on nothing else.
So the rows that one execution leaves settle what any other one does, as long as its order keeps
what operations need.
-/

namespace RecordGraph

open RecordGraph.Sql

namespace InsertPlan

/-! ## Orders -/

/-- Whether an order has every operation of a plan once, after those that it needs. -/
structure Schedules (plan : InsertPlan) (order : List Operation) : Prop where
  perm : order.Perm plan.operations
  sources : ∀ earlier operation later, order = earlier ++ operation :: later →
    ∀ backfill ∈ operation.backfills, ∃ source ∈ earlier, source.index = backfill.source

/-- Whether an order goes through the batches of a plan, in any order inside each batch. -/
def InBatches (plan : InsertPlan) (order : List Operation) : Prop :=
  ∃ batches, List.Forall₂ List.Perm batches plan.levels ∧ order = batches.flatten

namespace Ordered

variable {plan : InsertPlan} (ordered : plan.Ordered)

include ordered

/-- An order by a key is a schedule if what an operation needs has a smaller key. -/
theorem schedules_of_ascending {order : List Operation} (key : Operation → Nat)
    (perm : order.Perm plan.operations)
    (ascends : order.Pairwise fun left right => key left ≤ key right)
    (below : ∀ operation ∈ plan.operations, ∀ earlier ∈ plan.operations,
      earlier.index < operation.index → operation.Needs earlier → key earlier < key operation) :
    plan.Schedules order where
  perm := perm
  sources := by
    intro before operation after split backfill isBackfill
    have member : operation ∈ plan.operations :=
      perm.mem_iff.1 (split ▸ List.mem_append_right _ (List.mem_cons_self ..))
    obtain ⟨source, isSource, same, isEarlier⟩ :=
      ordered.sources operation member backfill isBackfill
    have needs : operation.Needs source := ⟨backfill, isBackfill, same.symm⟩
    have isBelow := below operation member source isSource isEarlier needs
    refine ⟨source, ?_, same⟩
    have inOrder := perm.mem_iff.2 isSource
    rw [split, List.mem_append, List.mem_cons] at inOrder
    rw [split, List.pairwise_append, List.pairwise_cons] at ascends
    rcases inOrder with inBefore | rfl | inAfter
    · exact inBefore
    · exact absurd isBelow (Nat.lt_irrefl _)
    · exact absurd isBelow (Nat.not_lt.2 (ascends.2.1.1 source inAfter))

theorem schedules_operations : plan.Schedules plan.operations := by
  refine ordered.schedules_of_ascending (·.index) (List.Perm.refl _) ?_ fun _ _ _ _ below _ => below
  have increasing : (plan.operations.map (·.index)).Pairwise (· < ·) := by
    rw [ordered.numbers]
    exact List.pairwise_lt_range
  exact (List.pairwise_map.1 increasing).imp Nat.le_of_lt

/-- Batches hold their depth, in whatever order. -/
theorem depthOf_of_mem_batch {batches : List (List Operation)}
    (perms : List.Forall₂ List.Perm batches plan.levels) {depth : Nat} {batch : List Operation}
    (isBatch : batches[depth]? = some batch) {operation : Operation} (member : operation ∈ batch) :
    plan.depthOf operation = depth := by
  obtain ⟨inRange, rfl⟩ := List.getElem?_eq_some_iff.1 isBatch
  have inLevels : depth < plan.levels.length := perms.length_eq ▸ inRange
  have perm := (List.forall₂_iff_get.1 perms).2 depth inRange inLevels
  have isLevel := perm.mem_iff.1 member
  exact (ordered.hasDepth_iff.1
    ((ordered.mem_batch_iff (List.getElem?_eq_getElem inLevels)).1 isLevel)).2

/-- An order through the batches is a schedule. -/
theorem schedules_of_inBatches {order : List Operation} (inBatches : plan.InBatches order) :
    plan.Schedules order := by
  obtain ⟨batches, perms, rfl⟩ := inBatches
  refine ordered.schedules_of_ascending plan.depthOf
    ((List.Perm.flatten_congr perms).trans ordered.levels_perm) ?_
    fun operation member earlier _ _ needs => ordered.depthOf_lt member needs
  rw [List.pairwise_flatten]
  constructor
  · intro batch isBatch
    obtain ⟨depth, inRange, rfl⟩ := List.getElem_of_mem isBatch
    refine List.pairwise_of_forall_mem_list fun left isLeft right isRight => ?_
    have isBatch := List.getElem?_eq_getElem inRange
    exact Nat.le_of_eq ((ordered.depthOf_of_mem_batch perms isBatch isLeft).trans
      (ordered.depthOf_of_mem_batch perms isBatch isRight).symm)
  · rw [List.pairwise_iff_getElem]
    intro first second firstRange secondRange below left isLeft right isRight
    rw [ordered.depthOf_of_mem_batch perms (List.getElem?_eq_getElem firstRange) isLeft,
      ordered.depthOf_of_mem_batch perms (List.getElem?_eq_getElem secondRange) isRight]
    exact Nat.le_of_lt below

end Ordered

theorem Schedules.distinct {plan : InsertPlan} {order : List Operation}
    (schedules : plan.Schedules order) (ordered : plan.Ordered) :
    (order.map (·.index)).Nodup :=
  (schedules.perm.map _).nodup_iff.2 ordered.numbers_distinct

/-! ## Values -/

/-- What an operation is given depends on the rows that it needs. -/
theorem resolveValues_congr {operation : Operation} {rows rows' : Rows}
    (same : ∀ backfill ∈ operation.backfills,
      rowOf rows backfill.source = rowOf rows' backfill.source) :
    resolveValues operation rows = resolveValues operation rows' := by
  have walk : ∀ (backfills : List Backfill) (values : Record),
      (∀ backfill ∈ backfills, rowOf rows backfill.source = rowOf rows' backfill.source) →
        backfills.foldlM (applyBackfill rows operation) values =
          backfills.foldlM (applyBackfill rows' operation) values := by
    intro backfills
    induction backfills with
    | nil => exact fun _ _ => rfl
    | cons backfill rest inductionHypothesis =>
        intro values same
        rw [List.forall_mem_cons] at same
        have atHead : applyBackfill rows operation values backfill =
            applyBackfill rows' operation values backfill := by
          unfold applyBackfill
          rw [same.1]
        rw [List.foldlM_cons, List.foldlM_cons, atHead]
        exact congrArg _ (funext fun next => inductionHypothesis next same.2)
  exact walk operation.backfills operation.values same

theorem rowOf_of_lookup {rows : Rows} {index : Nat} {row : Option Record}
    (found : rows.lookup index = some row) : rowOf rows index = row := by
  rw [rowOf, found]
  rfl

theorem lookup_append_of_some {rows : Rows} {index : Nat} {row : Option Record}
    (found : rows.lookup index = some row) (more : Rows) :
    (rows ++ more).lookup index = some row := by
  rw [List.lookup_append, found]
  rfl

end InsertPlan

namespace Repository

open InsertPlan

variable {σ : Type}

/-! ## Executions -/

/-- The insert of the row of an operation that was given its values. -/
def insertResolved (repository : Repository σ) (executor : Executor σ) (operation : Operation)
    (values : Record) : Action σ (Option Record) := do
  let compiled ← lift (CompiledInsert.compile operation.table [values] executor.dialect
    operation.conflict repository.config.useReturning)
  lift (compiled.contract.one (← executor.runInsert compiled))

/-- An operation that was executed, with what it was given and the row that it left. -/
structure Executed where
  operation : Operation
  values : Record
  row : Option Record

/-- The course of an execution of operations, one after the other. -/
inductive Executes (repository : Repository σ) (plan : InsertPlan) (executor : Executor σ) :
    Rows → σ → List Operation → List Executed → Rows → σ → Prop where
  | nil (rows : Rows) (world : σ) : Executes repository plan executor rows world [] [] rows world
  | cons {rows last : Rows} {before middle after : σ} {operation : Operation}
      {operations : List Operation} {executed : List Executed} {values : Record}
      {row : Option Record} (resolved : resolveValues operation rows = .ok values)
      (inserted : repository.insertResolved executor operation values before = (.ok row, middle))
      (keeps : row = none → plan.dependents operation.index = [])
      (rest : Executes repository plan executor (rows ++ [(operation.index, row)]) middle operations
        executed last after) :
      Executes repository plan executor rows before (operation :: operations)
        (⟨operation, values, row⟩ :: executed) last after

section Courses

variable {repository : Repository σ} {plan : InsertPlan} {executor : Executor σ}
variable {rows last : Rows} {before after : σ}

/-- An operation is executed if it is given values, its row is inserted, and a suppressed row is
none that others need. -/
theorem executeOperation_eq_ok_iff {operation : Operation} :
    repository.executeOperation plan executor rows operation before = (.ok last, after) ↔
      ∃ values row, resolveValues operation rows = .ok values ∧
        repository.insertResolved executor operation values before = (.ok row, after) ∧
          (row = none → plan.dependents operation.index = []) ∧
            last = rows ++ [(operation.index, row)] := by
  have isBind : repository.executeOperation plan executor rows operation = (do
      let values ← lift (resolveValues operation rows)
      let row ← repository.insertResolved executor operation values
      if row.isNone && !(plan.dependents operation.index).isEmpty then
        throw (.suppressedParent operation.table.name)
      pure (rows ++ [(operation.index, row)])) := by
    simp only [executeOperation, insertResolved, bind_assoc]
  rw [isBind]
  constructor
  · intro ran
    obtain ⟨values, _, resolved, ran⟩ := Action.bind_eq_ok.1 ran
    obtain ⟨isResolved, rfl⟩ := Action.ofExcept_eq_ok.1 resolved
    obtain ⟨row, middle, inserted, ran⟩ := Action.bind_eq_ok.1 ran
    cases row with
    | some row =>
        cases ran
        exact ⟨values, some row, isResolved, inserted, nofun, rfl⟩
    | none =>
        cases dependents : plan.dependents operation.index with
        | nil =>
            rw [dependents] at ran
            cases ran
            exact ⟨values, none, isResolved, inserted, fun _ => rfl, rfl⟩
        | cons dependent rest =>
            rw [dependents] at ran
            cases ran
  · rintro ⟨values, row, isResolved, inserted, keeps, rfl⟩
    refine (Action.bind_of_ok (Action.ofExcept_eq_ok.2 ⟨isResolved, rfl⟩)).trans ?_
    refine (Action.bind_of_ok inserted).trans ?_
    cases row with
    | some row => rfl
    | none =>
        rw [keeps rfl]
        rfl

/-- What is executed with success has a course. -/
theorem foldlM_eq_ok_iff {operations : List Operation} :
    operations.foldlM (repository.executeOperation plan executor) rows before = (.ok last, after) ↔
      ∃ executed, Executes repository plan executor rows before operations executed last after := by
  constructor
  · intro ran
    induction operations generalizing rows before with
    | nil =>
        cases ran
        exact ⟨[], .nil _ _⟩
    | cons operation rest inductionHypothesis =>
        rw [List.foldlM_cons] at ran
        obtain ⟨next, middle, first, ran⟩ := Action.bind_eq_ok.1 ran
        obtain ⟨values, row, resolved, inserted, keeps, rfl⟩ := executeOperation_eq_ok_iff.1 first
        obtain ⟨executed, others⟩ := inductionHypothesis ran
        exact ⟨_, .cons resolved inserted keeps others⟩
  · rintro ⟨executed, course⟩
    induction course with
    | nil rows world => rfl
    | cons resolved inserted keeps rest inductionHypothesis =>
        rw [List.foldlM_cons]
        refine (Action.bind_of_ok (executeOperation_eq_ok_iff.2 ?_)).trans inductionHypothesis
        exact ⟨_, _, resolved, inserted, keeps, rfl⟩

theorem Executes.rows_grow {operations : List Operation} {executed : List Executed}
    (course : Executes repository plan executor rows before operations executed last after) :
    ∃ more, last = rows ++ more := by
  induction course with
  | nil rows world => exact ⟨[], (List.append_nil _).symm⟩
  | cons resolved inserted keeps rest inductionHypothesis =>
      obtain ⟨more, same⟩ := inductionHypothesis
      exact ⟨_, same.trans (List.append_assoc ..)⟩

end Courses

/-! ## Settled rows -/

/-- Whether the answers of an executor depend on the operation and on what it is given. -/
def AnswersBy (repository : Repository σ) (executor : Executor σ) (plan : InsertPlan)
    (answer : Operation → Record → Result (Option Record)) : Prop :=
  ∀ operation ∈ plan.operations, ∀ values world,
    (repository.insertResolved executor operation values world).1 = answer operation values

/-- Whether rows are what an executor answers if operations are given values from them. -/
structure Settles (plan : InsertPlan) (answer : Operation → Record → Result (Option Record))
    (rows : Rows) (executed : Executed) : Prop where
  resolved : resolveValues executed.operation rows = .ok executed.values
  answered : answer executed.operation executed.values = .ok executed.row
  row : executed.row = rowOf rows executed.operation.index
  keeps : executed.row = none → plan.dependents executed.operation.index = []

section Settled

variable {repository : Repository σ} {plan : InsertPlan} {executor : Executor σ}
variable {answer : Operation → Record → Result (Option Record)}
variable {order : List Operation} {executed : List Executed} {rows last : Rows} {before after : σ}

/-- What rows that settle an operation say of its execution. -/
def readOff (rows : Rows) (operation : Operation) : Executed where
  operation
  values := (resolveValues operation rows).toOption.getD []
  row := rowOf rows operation.index

theorem eq_map_readOff (same : executed.map (·.operation) = order)
    (settled : ∀ each ∈ executed, Settles plan answer last each) :
    executed = order.map (readOff last) := by
  rw [← same, List.map_map]
  refine (List.map_id executed).symm.trans (List.map_congr_left fun each member => ?_)
  obtain ⟨operation, values, row⟩ := each
  have settles := settled _ member
  simp only [id, Function.comp, readOff, settles.resolved, ← settles.row]
  rfl

/-- What is settled by rows is settled by all rows that agree with them on the plan. -/
theorem Settles.of_agrees {each : Executed} (settles : Settles plan answer rows each)
    (ordered : plan.Ordered) (member : each.operation ∈ plan.operations)
    (agrees : ∀ operation ∈ plan.operations,
      rowOf rows operation.index = rowOf last operation.index) : Settles plan answer last each where
  resolved := by
    rw [← settles.resolved]
    refine resolveValues_congr fun backfill isBackfill => ?_
    obtain ⟨source, isSource, isIndex, _⟩ := ordered.sources _ member backfill isBackfill
    rw [← isIndex]
    exact (agrees source isSource).symm
  answered := settles.answered
  row := settles.row.trans (agrees _ member)
  keeps := settles.keeps

/-- The rows of what has been executed are there. -/
def HasRows (rows : Rows) (operations : List Operation) : Prop :=
  ∀ operation ∈ operations, ∃ row, rows.lookup operation.index = some row

/-- Whether rows have room for those of operations. -/
def HasRoom (rows : Rows) (operations : List Operation) : Prop :=
  ∀ operation ∈ operations, rows.lookup operation.index = none

theorem HasRows.snoc {earlier : List Operation} (hasRows : HasRows rows earlier)
    {operation : Operation} (fresh : rows.lookup operation.index = none) (row : Option Record) :
    HasRows (rows ++ [(operation.index, row)]) (earlier ++ [operation]) := by
  refine List.forall_mem_append.2 ⟨fun other member => ?_, List.forall_mem_singleton.2 ⟨row, ?_⟩⟩
  · obtain ⟨found, isFound⟩ := hasRows other member
    exact ⟨found, lookup_append_of_some isFound _⟩
  · rw [List.lookup_append, fresh]
    simp

theorem HasRoom.of_cons {operation : Operation} {later : List Operation}
    (hasRoom : HasRoom rows (operation :: later))
    (distinct : ((operation :: later).map (·.index)).Nodup) (row : Option Record) :
    HasRoom (rows ++ [(operation.index, row)]) later := by
  intro other member
  have apart : other.index ≠ operation.index := by
    intro same
    rw [List.map_cons, List.nodup_cons] at distinct
    exact distinct.1 (same ▸ List.mem_map_of_mem member)
  rw [List.lookup_append, hasRoom other (List.mem_cons_of_mem _ member)]
  simp [apart]

/-- An execution in a schedule leaves rows that settle all that it has executed. -/
theorem Executes.settles (answers : AnswersBy repository executor plan answer)
    (schedules : plan.Schedules order) (distinct : (order.map (·.index)).Nodup)
    {earlier later : List Operation} (split : order = earlier ++ later)
    (hasRows : HasRows rows earlier) (hasRoom : HasRoom rows later)
    (course : Executes repository plan executor rows before later executed last after) :
    executed.map (·.operation) = later ∧
      ∀ each ∈ executed, Settles plan answer last each := by
  induction course generalizing earlier with
  | nil rows world => exact ⟨rfl, fun _ member => absurd member List.not_mem_nil⟩
  | @cons rows last before middle after operation operations executed values row resolved inserted
      keeps rest inductionHypothesis =>
      have fresh := hasRoom operation (List.mem_cons_self ..)
      have apart : ((operation :: operations).map (·.index)).Nodup := by
        rw [split, List.map_append, List.nodup_append] at distinct
        exact distinct.2.1
      obtain ⟨same, settled⟩ := inductionHypothesis (split.trans (List.append_cons ..))
        (hasRows.snoc fresh row) (hasRoom.of_cons apart row)
      refine ⟨congrArg (operation :: ·) same, List.forall_mem_cons.2 ⟨?_, settled⟩⟩
      obtain ⟨more, rfl⟩ := rest.rows_grow
      have member : operation ∈ plan.operations :=
        schedules.perm.mem_iff.1 (split ▸ List.mem_append_right _ (List.mem_cons_self ..))
      refine ⟨?_, ?_, ?_, keeps⟩
      · -- what the operation needs was executed before it, and its rows stay
        rw [← resolved]
        refine resolveValues_congr fun backfill isBackfill => ?_
        obtain ⟨source, isSource, isIndex⟩ :=
          schedules.sources earlier operation operations split backfill isBackfill
        obtain ⟨found, isFound⟩ := hasRows source isSource
        rw [← isIndex, rowOf_of_lookup isFound, List.append_assoc,
          rowOf_of_lookup (lookup_append_of_some isFound _)]
      · rw [← answers operation member values before, inserted]
      · refine (rowOf_of_lookup (lookup_append_of_some ?_ more)).symm
        rw [List.lookup_append, fresh]
        simp

/-- Rows that settle all operations of a plan settle what an execution in a schedule does. -/
theorem Executes.of_settled (answers : AnswersBy repository executor plan answer)
    (schedules : plan.Schedules order) (distinct : (order.map (·.index)).Nodup)
    (settled : ∀ operation ∈ plan.operations, ∃ values row,
      Settles plan answer last ⟨operation, values, row⟩)
    {earlier later : List Operation} (split : order = earlier ++ later) {rows : Rows}
    (hasRows : ∀ operation ∈ earlier,
      rows.lookup operation.index = some (rowOf last operation.index))
    (hasRoom : HasRoom rows later) (before : σ) :
    ∃ executed rows' after,
      Executes repository plan executor rows before later executed rows' after ∧
      ∀ operation ∈ order, rows'.lookup operation.index = some (rowOf last operation.index) := by
  induction later generalizing earlier rows before with
  | nil =>
      rw [List.append_nil] at split
      exact ⟨[], rows, before, .nil _ _, split ▸ hasRows⟩
  | cons operation operations inductionHypothesis =>
      have fresh := hasRoom operation (List.mem_cons_self ..)
      have apart : ((operation :: operations).map (·.index)).Nodup := by
        rw [split, List.map_append, List.nodup_append] at distinct
        exact distinct.2.1
      have member : operation ∈ plan.operations :=
        schedules.perm.mem_iff.1 (split ▸ List.mem_append_right _ (List.mem_cons_self ..))
      obtain ⟨values, row, resolved, answered, isRow, keeps⟩ := settled operation member
      have resolves : resolveValues operation rows = .ok values := by
        rw [← resolved]
        refine resolveValues_congr fun backfill isBackfill => ?_
        obtain ⟨source, isSource, isIndex⟩ :=
          schedules.sources earlier operation operations split backfill isBackfill
        rw [← isIndex, rowOf_of_lookup (hasRows source isSource)]
      have inserted : repository.insertResolved executor operation values before =
          (.ok row, (repository.insertResolved executor operation values before).2) :=
        Prod.ext ((answers operation member values before).trans answered) rfl
      have hasRow : (rows ++ [(operation.index, row)]).lookup operation.index =
          some (rowOf last operation.index) := by
        rw [List.lookup_append, fresh, ← isRow]
        simp
      have stillHasRows : ∀ other ∈ earlier ++ [operation],
          (rows ++ [(operation.index, row)]).lookup other.index = some (rowOf last other.index) :=
        List.forall_mem_append.2 ⟨fun other isOther =>
          lookup_append_of_some (hasRows other isOther) _, List.forall_mem_singleton.2 hasRow⟩
      obtain ⟨executed, rows', after, course, agrees⟩ := inductionHypothesis
        (split.trans (List.append_cons ..)) stillHasRows (hasRoom.of_cons apart row)
        (repository.insertResolved executor operation values before).2
      exact ⟨_, rows', after, .cons resolves inserted keeps course, agrees⟩

theorem Executes.settles_schedule (ordered : plan.Ordered)
    (answers : AnswersBy repository executor plan answer) (schedules : plan.Schedules order)
    (course : Executes repository plan executor [] before order executed last after) :
    executed.map (·.operation) = order ∧ ∀ each ∈ executed, Settles plan answer last each :=
  course.settles answers schedules (schedules.distinct ordered) (List.nil_append _).symm
    (fun _ member => absurd member List.not_mem_nil) fun _ _ => rfl

/-- Executions of a plan in schedules are alike: if one succeeds the other does, and then every
operation is given the same values and leaves the same row. -/
theorem executes_alike (ordered : plan.Ordered)
    (answers : AnswersBy repository executor plan answer) {order' : List Operation}
    (schedules : plan.Schedules order) (schedules' : plan.Schedules order')
    (course : Executes repository plan executor [] before order executed last after)
    (before' : σ) :
    ∃ executed' last' after',
      Executes repository plan executor [] before' order' executed' last' after' ∧
        executed'.Perm executed ∧
          ∀ operation ∈ plan.operations,
            rowOf last' operation.index = rowOf last operation.index := by
  obtain ⟨same, settled⟩ := course.settles_schedule ordered answers schedules
  have settles : ∀ operation ∈ plan.operations, ∃ values row,
      Settles plan answer last ⟨operation, values, row⟩ := by
    intro operation member
    rw [← schedules.perm.mem_iff, ← same] at member
    obtain ⟨each, isExecuted, rfl⟩ := List.mem_map.1 member
    exact ⟨_, _, settled each isExecuted⟩
  have hasRoom : HasRoom [] order' := fun _ _ => rfl
  obtain ⟨executed', last', after', course', found⟩ := Executes.of_settled answers schedules'
    (schedules'.distinct ordered) settles (List.nil_append _).symm
    (fun _ member => absurd member List.not_mem_nil) hasRoom before'
  have agrees : ∀ operation ∈ plan.operations,
      rowOf last' operation.index = rowOf last operation.index :=
    fun operation member => rowOf_of_lookup (found operation (schedules'.perm.mem_iff.2 member))
  obtain ⟨same', settled'⟩ := course'.settles_schedule ordered answers schedules'
  have settledToo : ∀ each ∈ executed', Settles plan answer last each := by
    intro each member
    have isOperation : each.operation ∈ plan.operations :=
      schedules'.perm.mem_iff.1 (same' ▸ List.mem_map_of_mem member)
    exact (settled' each member).of_agrees ordered isOperation agrees
  refine ⟨executed', last', after', course', ?_, agrees⟩
  rw [eq_map_readOff same' settledToo, eq_map_readOff same settled]
  exact (schedules'.perm.trans schedules.perm.symm).map _

end Settled

end Repository

/-! ## Values that fit -/

/-- Whether all names of a record are columns of a table. -/
def Record.FitsIn (table : Table) (record : Record) : Prop :=
  ∀ name ∈ record.names, table.hasColumn name = true

theorem Record.FitsIn.set {table : Table} {record : Record} {name : String}
    (fits : record.FitsIn table) (isColumn : table.hasColumn name = true) (value : Value) :
    (record.set name value).FitsIn table := by
  induction record with
  | nil =>
      intro other member
      rw [List.mem_singleton.1 member]
      exact isColumn
  | cons field rest inductionHypothesis =>
      obtain ⟨key, old⟩ := field
      have split := List.forall_mem_cons.1 fits
      unfold Record.set
      by_cases same : key = name
      · rw [if_pos same]
        exact List.forall_mem_cons.2 ⟨split.1, split.2⟩
      · rw [if_neg same]
        exact List.forall_mem_cons.2 ⟨split.1, inductionHypothesis split.2⟩

namespace InsertPlan

/-- Whether an operation takes values of its own, and copies others, into columns of its table. -/
structure Fits (operation : Operation) : Prop where
  values : operation.values.FitsIn operation.table
  backfills : ∀ backfill ∈ operation.backfills,
    operation.table.hasColumn backfill.column = true

/-- Operations only name columns of their tables. -/
theorem IsImage.fits {registry : Registry} {conflict : Option ConflictPolicy} {root : Entity}
    {records : List Payload} {plan : InsertPlan} {parts : List RootPart}
    (image : plan.IsImage registry conflict root records parts) (consistent : registry.Consistent)
    (registered : registry.entity root.name = .ok root) {operation : Operation}
    (member : operation ∈ plan.operations) : Fits operation := by
  obtain ⟨part, _, record, _, site, inListing, isImage⟩ := image.part_of_mem member
  have described : Describes registry conflict [] ⟨root, "", record⟩ part.listing site operation :=
    isImage.described _ inListing
  cases described with
  | @record place above fields received filled _ found isRecord known receives isFilled same =>
      have hasColumn : ∀ {column : String},
          Spot.Offers registry ⟨root, "", record⟩ place column →
            above.entity.table.hasColumn column = true := by
        intro column offers
        obtain ⟨above', found', isColumn⟩ := offers.hasColumn consistent registered
        rw [found] at found'
        cases found'
        exact isColumn
      rw [same]
      refine ⟨?_, List.forall_mem_append.2 ⟨?_, ?_⟩⟩
      · intro name isName
        obtain ⟨field, inValues, rfl⟩ := List.mem_map.1 isName
        obtain ⟨given, isGiven, rfl⟩ := List.mem_map.1 inValues
        have kept := (List.mem_filter.1 isGiven).2
        rw [Bool.and_eq_true] at kept
        exact kept.1
      · cases receives with
        | top => exact fun _ impossible => absurd impossible List.not_mem_nil
        | free arrives isFree => exact fun _ impossible => absurd impossible List.not_mem_nil
        | linked arrives isMember numbered =>
            exact List.forall_mem_singleton.2 (hasColumn arrives.offers_target)
      · intro backfill isBackfill
        obtain ⟨⟨step, edge⟩, inOwners, isColumn, _, _⟩ := exists_of_forall₂ isFilled isBackfill
        obtain ⟨field, rfl, followed⟩ := Spot.mem_owners_iff.1 inOwners
        rw [isColumn]
        exact hasColumn (Spot.Arrives.offers_source ⟨_, above, rfl, found, followed⟩)
  | @link place holder edge through table owner linked _ arrives isJoined joins found
      ownerNumbered memberNumbered same =>
      obtain ⟨step, above, _, _, followed⟩ := arrives
      obtain ⟨name, leads⟩ := Spot.edge?_leads followed
      have joined := consistent.joins (Spot.resolves_of_relation? leads.named)
      obtain ⟨through', isThrough, source, target⟩ := joined.through isJoined
      rw [joins] at isThrough
      cases isThrough
      have isTable : registry.schema.table? through.table = some table :=
        Registry.tableAs_eq_ok found
      rw [same]
      refine ⟨fun _ impossible => absurd impossible List.not_mem_nil, ?_⟩
      refine List.forall_mem_cons.2 ⟨source.of_table isTable, ?_⟩
      exact List.forall_mem_singleton.2 (target.of_table isTable)

/-- Values that are resolved fit, as those do that an operation comes with. -/
theorem Fits.resolved {operation : Operation} (fits : Fits operation) {rows : Rows}
    {values : Record} (resolved : resolveValues operation rows = .ok values) :
    values.FitsIn operation.table := by
  have walk : ∀ (backfills : List Backfill) (start : Record),
      (∀ backfill ∈ backfills, operation.table.hasColumn backfill.column = true) →
        start.FitsIn operation.table →
          backfills.foldlM (applyBackfill rows operation) start = .ok values →
            values.FitsIn operation.table := by
    intro backfills
    induction backfills with
    | nil =>
        intro start _ startFits same
        cases same
        exact startFits
    | cons backfill rest inductionHypothesis =>
        intro start areColumns startFits applied
        rw [List.forall_mem_cons] at areColumns
        rw [List.foldlM_cons] at applied
        obtain ⟨next, isNext, applied⟩ := Result.bind_eq_ok.1 applied
        refine inductionHypothesis next areColumns.2 ?_ applied
        unfold applyBackfill at isNext
        split at isNext
        · cases isNext
        · split at isNext
          · cases isNext
          · cases isNext
            exact startFits.set areColumns.1 _
  exact walk operation.backfills operation.values fits.backfills fits.values resolved

end InsertPlan

namespace Repository

open InsertPlan

/-! ## Executors that always answer -/

/-- Whether a row has every column of a table. -/
def Covers (table : Table) (row : Record) : Prop :=
  ∀ name, table.hasColumn name = true → ∃ value, row.get? name = some value

/-- Whether every operation that was executed has a complete row, if any other copies from it. -/
def Keeps (plan : InsertPlan) (rows : Rows) (executed : List Operation) : Prop :=
  ∀ operation ∈ executed, plan.dependents operation.index ≠ [] →
    ∃ row, rows.lookup operation.index = some (some row) ∧ Covers operation.table row

/-- Whether there is a row with all columns for every operation that is given values that fit. -/
def AlwaysAnswers (plan : InsertPlan) (answer : Operation → Record → Result (Option Record)) :
    Prop :=
  ∀ operation ∈ plan.operations, ∀ values : Record, values.FitsIn operation.table →
    ∃ row, answer operation values = .ok (some row) ∧ Covers operation.table row

section Total

variable {σ : Type} {repository : Repository σ} {plan : InsertPlan} {executor : Executor σ}
variable {answer : Operation → Record → Result (Option Record)}
variable {registry : Registry} {conflict : Option ConflictPolicy} {root : Entity}
  {records : List Payload} {parts : List RootPart}

/-- An operation that copies from rows that are kept is given its values. -/
theorem resolves_of_keeps (image : plan.IsImage registry conflict root records parts)
    (consistent : registry.Consistent) (registered : registry.entity root.name = .ok root)
    {operation : Operation} {earlier later : List Operation}
    (split : plan.operations = earlier ++ operation :: later) {rows : Rows}
    (keeps : Keeps plan rows earlier) :
    ∃ values, resolveValues operation rows = .ok values ∧ values.FitsIn operation.table := by
  have member : operation ∈ plan.operations := by
    rw [split]
    exact List.mem_append_right _ (List.mem_cons_self ..)
  have present : ∀ backfill ∈ operation.backfills, ∃ value, copied rows backfill = some value := by
    intro backfill isBackfill
    obtain ⟨source, isSource, isIndex, isColumn⟩ :=
      image.source_of_backfill consistent registered member isBackfill
    obtain ⟨found, inEarlier, sameIndex⟩ :=
      image.ordered.schedules_operations.sources earlier operation later split backfill isBackfill
    have foundMember : found ∈ plan.operations := split ▸ List.mem_append_left _ inEarlier
    rw [image.eq_of_index foundMember isSource (sameIndex.trans isIndex.symm)] at inEarlier
    have needed : plan.dependents source.index ≠ [] :=
      List.ne_nil_of_mem (mem_dependents.2 ⟨member, backfill, isBackfill, isIndex.symm⟩)
    obtain ⟨row, isRow, covers⟩ := keeps source inEarlier needed
    obtain ⟨value, isValue⟩ := covers _ isColumn
    refine ⟨value, ?_⟩
    rw [copied, ← isIndex, rowOf_of_lookup isRow]
    exact isValue
  obtain ⟨values, resolved, _⟩ :=
    foldlM_applyBackfill operation.backfills operation.values present
  exact ⟨values, resolved, (image.fits consistent registered member).resolved resolved⟩

/-- Where there is always a row, the operations of a plan are executed one after the other. -/
theorem executes_of_alwaysAnswers (image : plan.IsImage registry conflict root records parts)
    (consistent : registry.Consistent) (registered : registry.entity root.name = .ok root)
    (answers : AnswersBy repository executor plan answer) (always : AlwaysAnswers plan answer)
    {earlier later : List Operation} (split : plan.operations = earlier ++ later) {rows : Rows}
    (hasRows : ∀ operation ∈ earlier, ∃ row, rows.lookup operation.index = some (some row) ∧
      Covers operation.table row)
    (hasRoom : HasRoom rows later) (before : σ) :
    ∃ executed last after, Executes repository plan executor rows before later executed last
      after := by
  induction later generalizing earlier rows before with
  | nil => exact ⟨[], rows, before, .nil _ _⟩
  | cons operation operations inductionHypothesis =>
      have fresh := hasRoom operation (List.mem_cons_self ..)
      have apart : ((operation :: operations).map (·.index)).Nodup := by
        have distinct := image.numbers_distinct
        rw [split, List.map_append, List.nodup_append] at distinct
        exact distinct.2.1
      have member : operation ∈ plan.operations := by
        rw [split]
        exact List.mem_append_right _ (List.mem_cons_self ..)
      obtain ⟨values, resolved, fits⟩ := resolves_of_keeps image consistent registered split
        fun source inEarlier _ => hasRows source inEarlier
      obtain ⟨row, answered, covers⟩ := always operation member values fits
      have inserted : repository.insertResolved executor operation values before =
          (.ok (some row), (repository.insertResolved executor operation values before).2) :=
        Prod.ext ((answers operation member values before).trans answered) rfl
      have hasRow : (rows ++ [(operation.index, some row)]).lookup operation.index =
          some (some row) := by
        rw [List.lookup_append, fresh]
        simp
      have stillHasRows : ∀ other ∈ earlier ++ [operation], ∃ found,
          (rows ++ [(operation.index, some row)]).lookup other.index = some (some found) ∧
            Covers other.table found := by
        refine List.forall_mem_append.2 ⟨fun other isOther => ?_,
          List.forall_mem_singleton.2 ⟨row, hasRow, covers⟩⟩
        obtain ⟨found, isFound, foundCovers⟩ := hasRows other isOther
        exact ⟨found, lookup_append_of_some isFound _, foundCovers⟩
      obtain ⟨executed, last, after, course⟩ := inductionHypothesis
        (split.trans (List.append_cons ..)) stillHasRows (hasRoom.of_cons apart (some row))
        (repository.insertResolved executor operation values before).2
      have keeps : some row = none → plan.dependents operation.index = [] :=
        fun isNone => absurd isNone (Option.some_ne_none row)
      exact ⟨_, last, after, .cons resolved inserted keeps course⟩

end Total

end Repository

/-! ## Batches are as good as the plan -/

namespace Repository

open InsertPlan

/-- Whether an execution in an order that succeeds tells how one in another order goes, in whatever
world: it succeeds too, gives every operation the same values, and leaves the same rows. -/
def RunsAlike {σ : Type} (repository : Repository σ) (executor : Executor σ) (plan : InsertPlan)
    (order order' : List Operation) : Prop :=
  ∀ before rows after,
    order.foldlM (repository.executeOperation plan executor) [] before = (.ok rows, after) →
      ∃ executed, Executes repository plan executor [] before order executed rows after ∧
        ∀ before', ∃ executed' rows' after',
          order'.foldlM (repository.executeOperation plan executor) [] before' =
              (.ok rows', after') ∧
            Executes repository plan executor [] before' order' executed' rows' after' ∧
              executed'.Perm executed ∧ ∀ operation ∈ plan.operations,
                rowOf rows' operation.index = rowOf rows operation.index

theorem runsAlike_of_schedules {σ : Type} {repository : Repository σ} {executor : Executor σ}
    {plan : InsertPlan} {answer : Operation → Record → Result (Option Record)}
    (ordered : plan.Ordered) (answers : AnswersBy repository executor plan answer)
    {order order' : List Operation} (schedules : plan.Schedules order)
    (schedules' : plan.Schedules order') : RunsAlike repository executor plan order order' := by
  intro before rows after ran
  obtain ⟨executed, course⟩ := foldlM_eq_ok_iff.1 ran
  refine ⟨executed, course, fun before' => ?_⟩
  obtain ⟨executed', rows', after', course', perm, agrees⟩ :=
    executes_alike ordered answers schedules schedules' course before'
  exact ⟨executed', rows', after', foldlM_eq_ok_iff.2 ⟨_, course'⟩, course', perm, agrees⟩

end Repository

namespace InsertPlan

variable {registry : Registry} {config : Config} {entity : String} {payload : Payload}
variable {allow : AllowSource Filter} {conflict : Option ConflictPolicy} {plan : InsertPlan}

/-- The batches of a planned insert hold every operation once, none is empty, and each holds the
operations whose longest chains of backfills have its number of links. With an executor whose
answers depend on the operation and on what it is given, any order inside each batch gives every
operation the same values and leaves every operation's row as the order of the plan does: one
execution succeeds if the other does, and they succeed if there is always a row with all columns. -/
theorem levels_exact_and_confluent (reachable : registry.Reachable)
    (made : InsertPlan.make registry config entity payload allow conflict = .ok plan) :
    plan.levels.flatten.Perm plan.operations ∧ (plan.operations.map (·.index)).Nodup ∧
    (∀ batch ∈ plan.levels, batch ≠ []) ∧
    (∀ depth batch, plan.levels[depth]? = some batch →
      ∀ operation, operation ∈ batch ↔ plan.HasDepth operation depth) ∧
    ∀ {σ : Type} (repository : Repository σ) (executor : Executor σ)
      (answer : Operation → Record → Result (Option Record)),
      repository.AnswersBy executor plan answer →
        (∀ order, plan.InBatches order →
          repository.RunsAlike executor plan plan.operations order ∧
            repository.RunsAlike executor plan order plan.operations) ∧
        (Repository.AlwaysAnswers plan answer → ∀ before, ∃ rows after,
          repository.executeInsertPlan plan executor before = (.ok rows, after)) := by
  obtain ⟨readAllow, root, records, found, _, planned⟩ := make_eq_ok made
  obtain ⟨parts, image⟩ := isImage_of_planned planned
  have ordered := image.ordered
  refine ⟨ordered.levels_perm, ordered.numbers_distinct, ordered.levels_nonempty,
    fun depth batch isBatch operation => ordered.mem_batch_iff isBatch, ?_⟩
  intro σ repository executor answer answers
  refine ⟨fun order inBatches => ?_, fun always before => ?_⟩
  · have inOrder := ordered.schedules_operations
    have batched := ordered.schedules_of_inBatches inBatches
    exact ⟨Repository.runsAlike_of_schedules ordered answers inOrder batched,
      Repository.runsAlike_of_schedules ordered answers batched inOrder⟩
  · have hasRoom : Repository.HasRoom [] plan.operations := fun _ _ => rfl
    obtain ⟨executed, rows, after, course⟩ := Repository.executes_of_alwaysAnswers image
      reachable.consistent (Registry.entity_name found) answers always (List.nil_append _).symm
      (fun _ member => absurd member List.not_mem_nil) hasRoom before
    exact ⟨rows, after, Repository.foldlM_eq_ok_iff.2 ⟨executed, course⟩⟩

end InsertPlan

/-! ## A household in batches -/

namespace Family

open InsertPlan

end Family

end RecordGraph
