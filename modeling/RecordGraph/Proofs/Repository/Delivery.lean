import RecordGraph.Proofs.Insert.Single
import RecordGraph.Proofs.Repository.Schedule

/-!
Contract: what is sent to an executor when an insert plan is executed, and where the execution stops.

Owns: `Executor.recording`, `InsertPlan.Stops`, `Delivers`, and that an execution against an executor
that answers in full finds every value that it copies, and stops only where a row is missing.
Does not own: executors that fail, and what a database answers.

An operation copies from the rows of earlier operations. An execution that has come as far as the
operation has not stopped at any of those, so none of their rows is missing.
-/

namespace RecordGraph

open RecordGraph.Sql

/-! ## Recording -/

/-- An insert that was sent, and the rows that came back. -/
structure Exchange where
  insert : CompiledInsert
  rows : List Record

/-- A call of an executor. -/
inductive ExecutorCall where
  | select (query : Select)
  | change (statement : Statement)
  | insert (exchange : Exchange)

/-- A world with the calls that an executor had in it. -/
structure Recorded (σ : Type) where
  world : σ
  calls : List ExecutorCall := []

namespace Recorded

variable {σ α : Type}

/-- An action of a world, recorded as a call that depends on its outcome. -/
def note (call : Except Error α → ExecutorCall) (action : Action σ α) : Action (Recorded σ) α :=
  fun state =>
    ((action state.world).1, {
      world := (action state.world).2
      calls := state.calls ++ [call (action state.world).1] })

end Recorded

/-- An executor that records its calls. -/
def Executor.recording {σ : Type} (executor : Executor σ) : Executor (Recorded σ) where
  dialect := executor.dialect
  fetchAll query := Recorded.note (fun _ => .select query) (executor.fetchAll query)
  fetchOne query := Recorded.note (fun _ => .select query) (executor.fetchOne query)
  change statement := Recorded.note (fun _ => .change statement) (executor.change statement)
  runInsert compiled :=
    Recorded.note (fun result => .insert ⟨compiled, result.toOption.getD []⟩)
      (executor.runInsert compiled)

/-! ## Stopping -/

/-- Whether the policy of an operation may leave it without a row. -/
def Operation.maySuppress (operation : Operation) : Bool :=
  operation.conflict.any fun policy => policy.action = .ignore

namespace InsertPlan

variable {plan : InsertPlan} {operation : Operation}

/-- Whether an execution must stop at an operation that was answered with rows: there is none, and
either there has to be one or a later operation copies from it. -/
def Stops (plan : InsertPlan) (operation : Operation) (rows : List Record) : Prop :=
  rows = [] ∧ (operation.maySuppress = false ∨
    ∃ later ∈ plan.operations, operation.index < later.index ∧ later.Needs operation)

/-- The error with which an execution stops at an operation. -/
def stopError (operation : Operation) : Error :=
  if operation.maySuppress then .suppressedParent operation.table.name else .missingRow

theorem kind_stopError (operation : Operation) :
    (stopError operation).kind = .returnContract := by
  unfold stopError
  split <;> rfl

/-- The rows that operations leave, given what was exchanged for them. -/
def answered (operations : List Operation) (exchanges : List Exchange) : Rows :=
  (operations.zip exchanges).map fun pair => (pair.1.index, pair.2.rows.head?)

theorem map_fst_answered {operations : List Operation} {exchanges : List Exchange}
    (sameLength : operations.length = exchanges.length) :
    (answered operations exchanges).map Prod.fst = operations.map (·.index) := by
  have firsts : (operations.zip exchanges).map Prod.fst = operations :=
    List.map_fst_zip (Nat.le_of_eq sameLength)
  unfold answered
  rw [List.map_map]
  conv => rhs; rw [← firsts, List.map_map]
  rfl

/-- Entities have a key by which collisions are told. -/
theorem IsImage.keyed {registry : Registry} {conflict : Option ConflictPolicy} {root : Entity}
    {records : List Payload} {parts : List RootPart}
    (image : plan.IsImage registry conflict root records parts) (consistent : registry.Consistent)
    (registered : registry.entity root.name = .ok root) (member : operation ∈ plan.operations)
    (hasPolicy : operation.conflict ≠ none) : operation.table.keyNames ≠ [] := by
  obtain ⟨part, _, record, _, site, inListing, isImage⟩ := image.part_of_mem member
  have described : Describes registry conflict [] ⟨root, "", record⟩ part.listing site operation :=
    isImage.described _ inListing
  cases described with
  | record found isRecord known receives isFilled same =>
      have isRegistered := Spot.at?_registered _ registered found
      have agrees := consistent.agrees _ (Registry.entity_eq_ok isRegistered).1
      rw [same]
      simp [Table.keyNames, agrees.key]
  | link arrives isJoined joins found ownerNumbered memberNumbered same =>
      rw [same] at hasPolicy
      exact absurd rfl hasPolicy

end InsertPlan

namespace Repository

open InsertPlan

variable {σ : Type}

/-! ## One operation -/

/-- Whether an exchange is the insert of an operation that is given its values from rows. -/
def Sends (config : Config) (dialect : Dialect) (rows : Rows) (operation : Operation)
    (exchange : Exchange) : Prop :=
  ∃ values, resolveValues operation rows = .ok values ∧
    CompiledInsert.compile operation.table [values] dialect operation.conflict
      config.useReturning = .ok exchange.insert

section Step

variable {repository : Repository σ} {plan : InsertPlan} {executor : Executor σ}
variable {rows : Rows} {operation : Operation} {values : Record} {compiled : CompiledInsert}
variable {records : List Record} {before after : σ}

end Step

/-! ## Whole executions -/

/-- The course of an execution that is answered: it goes on after each operation but one at which it
stops. -/
inductive Delivers (config : Config) (plan : InsertPlan) (dialect : Dialect) :
    Rows → List Operation → List Exchange → Except Error Rows → Prop where
  | done (rows : Rows) : Delivers config plan dialect rows [] [] (.ok rows)
  | next {rows : Rows} {operation : Operation} {operations : List Operation} {exchange : Exchange}
      {exchanges : List Exchange} {result : Except Error Rows}
      (sends : Sends config dialect rows operation exchange)
      (goesOn : ¬ plan.Stops operation exchange.rows)
      (rest : Delivers config plan dialect (rows ++ [(operation.index, exchange.rows.head?)])
        operations exchanges result) :
      Delivers config plan dialect rows (operation :: operations) (exchange :: exchanges) result
  | stopped {rows : Rows} {operation : Operation} {operations : List Operation}
      {exchange : Exchange} (sends : Sends config dialect rows operation exchange)
      (stops : plan.Stops operation exchange.rows) :
      Delivers config plan dialect rows (operation :: operations) [exchange]
        (.error (stopError operation))

section Courses

variable {config : Config} {plan : InsertPlan} {dialect : Dialect} {rows : Rows}
variable {operations : List Operation} {exchanges : List Exchange} {result : Except Error Rows}

/-- Every insert that is sent is that of the operation at its place, and has its values from the
rows before it. -/
theorem Delivers.sends (course : Delivers config plan dialect rows operations exchanges result) :
    ∀ position operation exchange, operations[position]? = some operation →
      exchanges[position]? = some exchange →
        Sends config dialect (rows ++ answered operations (exchanges.take position)) operation
          exchange := by
  induction course with
  | done rows => exact fun _ _ _ impossible => nomatch impossible
  | next sends goesOn rest inductionHypothesis =>
      intro position operation exchange isOperation isExchange
      cases position with
      | zero =>
          cases isOperation
          cases isExchange
          simpa [answered] using sends
      | succ position =>
          have below := inductionHypothesis position operation exchange isOperation isExchange
          rw [List.append_assoc] at below
          exact below
  | stopped sends stops =>
      intro position operation exchange isOperation isExchange
      cases position with
      | zero =>
          cases isOperation
          cases isExchange
          simpa [answered] using sends
      | succ position => cases isExchange

/-- An execution goes through all operations, or stops at the first at which it has to. -/
theorem Delivers.ends (course : Delivers config plan dialect rows operations exchanges result) :
    (result = .ok (rows ++ answered operations exchanges) ∧
      exchanges.length = operations.length ∧
        ∀ pair ∈ operations.zip exchanges, ¬ plan.Stops pair.1 pair.2.rows) ∨
    ∃ earlier operation later sent last, operations = earlier ++ operation :: later ∧
      exchanges = sent ++ [last] ∧ sent.length = earlier.length ∧
        (∀ pair ∈ earlier.zip sent, ¬ plan.Stops pair.1 pair.2.rows) ∧
          plan.Stops operation last.rows ∧ result = .error (stopError operation) := by
  induction course with
  | done rows =>
      left
      simp [answered]
  | @next rows operation operations exchange exchanges result sends goesOn rest inductionHypothesis =>
      rcases inductionHypothesis with ⟨isResult, sameLength, goOn⟩ |
        ⟨earlier, stopper, later, sent, last, rfl, rfl, sameLength, goOn, stops, isResult⟩
      · left
        refine ⟨?_, by simp [sameLength], List.forall_mem_cons.2 ⟨goesOn, goOn⟩⟩
        rw [isResult, List.append_assoc]
        rfl
      · right
        refine ⟨operation :: earlier, stopper, later, exchange :: sent, last, rfl, rfl, ?_, ?_,
          stops, isResult⟩
        · simp [sameLength]
        · exact List.forall_mem_cons.2 ⟨goesOn, goOn⟩
  | @stopped rows operation operations exchange sends stops =>
      right
      exact ⟨[], operation, operations, [], exchange, rfl, rfl, rfl,
        fun _ member => absurd member List.not_mem_nil, stops, rfl⟩

end Courses

section Runs

variable {σ : Type} {repository : Repository (Recorded σ)} {executor : Executor σ}
variable {registry : Registry} {conflict : Option ConflictPolicy} {root : Entity}
variable {records : List Payload} {plan : InsertPlan} {parts : List RootPart}
variable {rows : Rows} {earlier later : List Operation}

/-- An operation at which an execution does not stop keeps what is copied from. -/
theorem Keeps.snoc (keeps : Keeps plan rows earlier) (ordered : plan.Ordered)
    {operation : Operation} (fresh : rows.lookup operation.index = none) {records : List Record}
    (goesOn : ¬ plan.Stops operation records)
    (covers : ∀ row ∈ records, Covers operation.table row) :
    Keeps plan (rows ++ [(operation.index, records.head?)]) (earlier ++ [operation]) := by
  refine List.forall_mem_append.2 ⟨fun other member needed => ?_,
    List.forall_mem_singleton.2 fun needed => ?_⟩
  · obtain ⟨row, isRow, rowCovers⟩ := keeps other member needed
    exact ⟨row, lookup_append_of_some isRow _, rowCovers⟩
  · cases records with
    | nil => exact absurd ⟨rfl, .inr (ordered.dependents_ne_nil_iff.1 needed)⟩ goesOn
    | cons row others =>
        refine ⟨row, ?_, covers row (List.mem_cons_self ..)⟩
        rw [List.lookup_append, fresh]
        simp

end Runs

/-- What comes of an execution of a plan whose inserts are answered in full. -/
structure Delivered (config : Config) (plan : InsertPlan) (dialect : Dialect)
    (exchanges : List Exchange) (result : Except Error Rows) : Prop where
  /-- What is sent are the operations in order, each with values from the rows before it. -/
  sent : ∀ position operation exchange, plan.operations[position]? = some operation →
    exchanges[position]? = some exchange →
      Sends config dialect (answered plan.operations (exchanges.take position)) operation exchange
  fails_iff : (∃ failure, result = .error failure) ↔
    ∃ pair ∈ plan.operations.zip exchanges, plan.Stops pair.1 pair.2.rows
  /-- Nothing is sent after the operation at which the execution stops. -/
  stops : ∀ failure, result = .error failure → ∃ earlier operation later before last,
    plan.operations = earlier ++ operation :: later ∧ exchanges = before ++ [last] ∧
      before.length = earlier.length ∧ plan.Stops operation last.rows ∧
        failure = stopError operation ∧ failure.kind = .returnContract ∧
          ∀ table column source, failure ≠ .missingSource table column source
  /-- An execution that does not stop has sent every operation, and leaves a row for each. -/
  finishes : ∀ rows, result = .ok rows → exchanges.length = plan.operations.length ∧
    rows = answered plan.operations exchanges ∧
      rows.map Prod.fst = List.range plan.operations.length

theorem Delivers.delivered {config : Config} {plan : InsertPlan} {dialect : Dialect}
    {exchanges : List Exchange} {result : Except Error Rows} (ordered : plan.Ordered)
    (course : Delivers config plan dialect [] plan.operations exchanges result) :
    Delivered config plan dialect exchanges result := by
  have sent := course.sends
  rcases course.ends with ⟨rfl, sameLength, goOn⟩ |
    ⟨earlier, operation, later, before, last, split, rfl, sameLength, goOn, stops, rfl⟩
  · refine ⟨sent, iff_of_false ?_ ?_, fun _ impossible => (nomatch impossible), ?_⟩
    · rintro ⟨_, impossible⟩
      cases impossible
    · rintro ⟨pair, member, stops⟩
      exact goOn pair member stops
    · rintro rows isResult
      cases isResult
      refine ⟨sameLength, rfl, ?_⟩
      rw [← ordered.numbers]
      exact map_fst_answered sameLength.symm
  · refine ⟨sent, iff_of_true ⟨_, rfl⟩ ⟨(operation, last), ?_, stops⟩, ?_,
      fun _ impossible => (nomatch impossible)⟩
    · rw [split, List.zip_append sameLength.symm]
      simp
    · rintro failure isResult
      cases isResult
      refine ⟨earlier, operation, later, before, last, split, rfl, sameLength, stops, rfl,
        kind_stopError operation, fun table column source => ?_⟩
      unfold stopError
      split <;> exact nofun

end Repository

namespace Family

/-- An executor under which no insert leaves a row. -/
def silent : Executor Unit where
  dialect := .sqlite
  fetchAll _ := pure []
  fetchOne _ := pure none
  change _ := pure 0
  runInsert _ := pure []

end Family

end RecordGraph
