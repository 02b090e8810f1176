import RecordGraph.Proofs.Execution.Storage
import RecordGraph.Proofs.Plan.Links
import RecordGraph.Proofs.Repository.Write

/-!
Contract: the rows that an executed insert plan leaves in a database.

Owns: `InsertPlan.Stored`, and that every operation of an executed plan has a stored row with the
values that its backfills copied.
Does not own: which backfills operations have.
-/

namespace RecordGraph

open RecordGraph.Sql

namespace InsertPlan

variable {rows : Rows} {operation : Operation}

/-- Values are resolved only if every backfill finds what it copies. -/
theorem copied_of_resolved {backfills : List Backfill} {values resolved : Record}
    (isResolved : backfills.foldlM (applyBackfill rows operation) values = .ok resolved) :
    ∀ backfill ∈ backfills, ∃ value, copied rows backfill = some value := by
  induction backfills generalizing values with
  | nil => exact fun _ member => absurd member List.not_mem_nil
  | cons backfill rest inductionHypothesis =>
      rw [List.foldlM_cons] at isResolved
      obtain ⟨next, applied, isResolved⟩ := Result.bind_eq_ok.1 isResolved
      rw [List.forall_mem_cons]
      refine ⟨?_, inductionHypothesis isResolved⟩
      unfold applyBackfill at applied
      unfold copied
      cases isRow : rowOf rows backfill.source with
      | none =>
          rw [isRow] at applied
          cases applied
      | some row =>
          rw [isRow] at applied
          cases isValue : row.get? backfill.sourceColumn with
          | none =>
              simp only [isValue] at applied
              cases applied
          | some value => exact ⟨value, by simpa using isValue⟩

/-- Backfills of different columns are all kept. -/
theorem kept_of_resolved (distinct : (operation.backfills.map (·.column)).Nodup) {values : Record}
    (isResolved : resolveValues operation rows = .ok values) :
    ∀ backfill ∈ operation.backfills, ∃ value, copied rows backfill = some value ∧
      values.get? backfill.column = some value := by
  have copies := copied_of_resolved isResolved
  obtain ⟨values', isResolved', columns⟩ :=
    foldlM_applyBackfill operation.backfills operation.values copies
  have same : values = values' := Except.ok.inj (isResolved.symm.trans isResolved')
  rw [← same] at columns
  have keeps : KeepsLinks rows operation values := by
    refine (linked_iff_agree columns).2 fun left leftMember right rightMember sameColumn => ?_
    rw [List.inj_on_of_nodup_map distinct leftMember rightMember sameColumn]
  intro backfill member
  obtain ⟨value, isCopied⟩ := copies backfill member
  exact ⟨value, isCopied, (keeps backfill member).trans isCopied⟩

/-- Whether a row is stored for an operation, with the values that its backfills copied, and is the
one that was handed back. -/
structure Stored (contents : Contents) (rows : Rows) (operation : Operation) (tuple : Tuple) :
    Prop where
  member : tuple ∈ contents operation.table.name
  handed : ∀ key, operation.table.primaryKeys = [key] →
    rowOf rows operation.index = some (tuple.shown operation.table)
  copies : ∀ backfill ∈ operation.backfills, ∃ value, copied rows backfill = some value ∧
    (value.isNull = false → tuple backfill.column = value)

theorem rowOf_append {index : Nat} {row : Record} (isRow : rowOf rows index = some row)
    (more : Rows) : rowOf (rows ++ more) index = some row := by
  have found := Option.join_eq_some_iff.1 isRow
  unfold rowOf
  rw [List.lookup_append, found]
  rfl

theorem rowOf_appended {index : Nat} (fresh : rows.lookup index = none) (row : Option Record) :
    rowOf (rows ++ [(index, row)]) index = row := by
  unfold rowOf
  rw [List.lookup_append, fresh]
  simp

theorem copied_append {backfill : Backfill} {value : Value}
    (isCopied : copied rows backfill = some value) (more : Rows) :
    copied (rows ++ more) backfill = some value := by
  obtain ⟨row, isRow, isValue⟩ := Option.bind_eq_some_iff.1 isCopied
  unfold copied
  rw [rowOf_append isRow more]
  exact isValue

/-- What is stored for an operation stays when more rows are. -/
theorem Stored.mono {contents contents' : Contents} {tuple : Tuple}
    (stored : Stored contents rows operation tuple)
    (stays : contents.StaysIn contents') (more : Rows) :
    Stored contents' (rows ++ more) operation tuple where
  member := stays _ _ stored.member
  handed key isKey := rowOf_append (stored.handed key isKey) more
  copies backfill member := by
    obtain ⟨value, isCopied, isStored⟩ := stored.copies backfill member
    exact ⟨value, copied_append isCopied more, isStored⟩

end InsertPlan

namespace Repository

open InsertPlan

variable {σ : Type} {repository : Repository σ} {storage : Storage σ} {schema : Schema}
variable {cancel : Option (σ → Bool)} {plan : InsertPlan} {world after : σ} {rows rows' : Rows}

/-- An operation that is executed without a policy has inserted its values, and handed back a
record. -/
theorem executeOperation_eq_ok {executor : Executor σ} {operation : Operation}
    (noConflict : operation.conflict = none)
    (ran : repository.executeOperation plan executor rows operation world = (.ok rows', after)) :
    ∃ values compiled handed record, resolveValues operation rows = .ok values ∧
      CompiledInsert.compile operation.table [values] executor.dialect none
        repository.config.useReturning = .ok compiled ∧
      executor.runInsert compiled world = (.ok handed, after) ∧ handed.head? = some record ∧
        rows' = rows ++ [(operation.index, some record)] := by
  unfold executeOperation at ran
  obtain ⟨values, _, resolved, ran⟩ := Action.bind_eq_ok.1 ran
  obtain ⟨isResolved, rfl⟩ := Action.ofExcept_eq_ok.1 resolved
  obtain ⟨compiled, _, compiles, ran⟩ := Action.bind_eq_ok.1 ran
  obtain ⟨isCompiled, rfl⟩ := Action.ofExcept_eq_ok.1 compiles
  obtain ⟨handed, left, insertRan, ran⟩ := Action.bind_eq_ok.1 ran
  obtain ⟨row, _, one, ran⟩ := Action.bind_eq_ok.1 ran
  obtain ⟨isOne, rfl⟩ := Action.ofExcept_eq_ok.1 one
  rw [noConflict] at isCompiled
  have noSuppress := (CompiledInsert.contract_of_compile isCompiled).2
  unfold ReturnContract.one at isOne
  cases handed with
  | nil =>
      rw [noSuppress] at isOne
      exact absurd isOne Result.throw_ne_ok
  | cons record rest =>
      cases isOne
      cases ran
      exact ⟨values, compiled, _, record, isResolved, isCompiled, insertRan, rfl, rfl⟩

/-- An operation that is executed has a stored row, and nothing else is lost. -/
theorem executeOperation_stored (faithful : storage.Faithful schema) (opened : storage.isOpen world)
    {operation : Operation} (isTable : schema.table? operation.table.name = some operation.table)
    (noConflict : operation.conflict = none)
    (distinct : (operation.backfills.map (·.column)).Nodup)
    (fresh : rows.lookup operation.index = none)
    (ran : repository.executeOperation plan (Executor.ofSession storage.session cancel) rows operation
      world = (.ok rows', after)) :
    storage.isOpen after ∧
      (storage.contents world).StaysIn (storage.contents after) ∧
        (∃ row, rows' = rows ++ [(operation.index, row)]) ∧
          ∃ tuple, Stored (storage.contents after) rows' operation tuple := by
  obtain ⟨values, compiled, handed, record, isResolved, isCompiled, insertRan, isHead, rfl⟩ :=
    executeOperation_eq_ok noConflict ran
  obtain ⟨isOf, isSingle, isAsking⟩ := CompiledInsert.statement_of_compile isCompiled
  have isReturned := (CompiledInsert.contract_of_compile isCompiled).1
  have isPlain := CompiledInsert.conflict_of_compile isCompiled
  rw [← isOf] at isTable
  obtain ⟨stillOpen, tuple, adds, isRow⟩ := faithful.regular.inserted opened isTable isSingle isPlain
    (isReturned.trans isAsking.symm) insertRan isHead
  rw [isOf] at adds isRow
  refine ⟨stillOpen, adds.staysIn, ⟨_, rfl⟩, tuple, ?_⟩
  exact {
    member := adds.member
    handed := fun key isKey => by
      rw [isRow key isKey]
      exact rowOf_appended fresh _
    copies := fun backfill member => by
      obtain ⟨value, isCopied, isKept⟩ := kept_of_resolved distinct isResolved backfill member
      exact ⟨value, copied_append isCopied _, adds.stored _ _ isKept⟩ }

/-- Every operation that is executed has a stored row in the end. -/
theorem executeOperations_stored (faithful : storage.Faithful schema) (opened : storage.isOpen world)
    {operations : List Operation}
    (isTable : ∀ operation ∈ operations,
      schema.table? operation.table.name = some operation.table)
    (noConflict : ∀ operation ∈ operations, operation.conflict = none)
    (distinct : ∀ operation ∈ operations, (operation.backfills.map (·.column)).Nodup)
    (numbered : (operations.map (·.index)).Nodup)
    (fresh : ∀ operation ∈ operations, rows.lookup operation.index = none)
    (ran : operations.foldlM
      (repository.executeOperation plan (Executor.ofSession storage.session cancel)) rows world =
        (.ok rows', after)) :
    storage.isOpen after ∧ (storage.contents world).StaysIn (storage.contents after) ∧
      (∃ more, rows' = rows ++ more) ∧
        ∀ operation ∈ operations, ∃ tuple, Stored (storage.contents after) rows' operation tuple := by
  induction operations generalizing rows world with
  | nil =>
      rw [List.foldlM_nil] at ran
      cases ran
      refine ⟨opened, fun _ _ member => member, ⟨[], (List.append_nil _).symm⟩, ?_⟩
      exact fun _ member => absurd member List.not_mem_nil
  | cons operation rest inductionHypothesis =>
      rw [List.foldlM_cons] at ran
      obtain ⟨rows₁, middle, first, ran⟩ := Action.bind_eq_ok.1 ran
      rw [List.forall_mem_cons] at isTable noConflict distinct fresh
      rw [List.map_cons, List.nodup_cons] at numbered
      obtain ⟨stillOpen, stays, ⟨row, rfl⟩, tuple, stored⟩ := executeOperation_stored faithful opened
        isTable.1 noConflict.1 distinct.1 fresh.1 first
      have stillFresh : ∀ later ∈ rest,
          (rows ++ [(operation.index, row)]).lookup later.index = none := by
        intro later member
        have apart : later.index ≠ operation.index := by
          intro same
          apply numbered.1
          rw [← same]
          exact List.mem_map_of_mem member
        rw [List.lookup_append, fresh.2 later member]
        simp [apart]
      obtain ⟨finallyOpen, staysOn, ⟨more, rfl⟩, each⟩ := inductionHypothesis stillOpen isTable.2
        noConflict.2 distinct.2 numbered.2 stillFresh ran
      refine ⟨finallyOpen, stays.trans staysOn, ⟨_, List.append_assoc ..⟩, ?_⟩
      rw [List.forall_mem_cons]
      exact ⟨⟨tuple, stored.mono staysOn more⟩, each⟩

/-- A graph insert that succeeds, without a policy, stores a row for every operation of its plan. -/
theorem insertGraph_stored {control : SessionControl σ} {session : Session σ}
    {laws : Transactional control session Contents} {equal : Value → Value → Bool}
    {registry : Registry} (faithful : (laws.storage equal).Faithful registry.schema)
    (consistent : registry.Consistent) {entity : Entity} {config : Config} {payload : Payload}
    {allow : AllowSource Filter}
    (distinct : ∀ plan, InsertPlan.make registry config entity.name payload allow none = .ok plan →
      ∀ operation ∈ plan.operations, (operation.backfills.map (·.column)).Nodup)
    {before after : Workplace σ} (closed : control.inTransaction before.world.world = false)
    {cancel : Option (σ → Bool)} {output : Value}
    (inserted :
      (Repository.over registry entity config session (some (unitScope control))).insertGraph payload
        allow none (watched cancel) before = (.ok output, after)) :
    ∃ plan rows, InsertPlan.make registry config entity.name payload allow none = .ok plan ∧
      output = plan.assemble rows ∧
        ∀ operation ∈ plan.operations, ∃ tuple,
          Stored (laws.stored after.world.world) rows operation tuple := by
  unfold insertGraph at inserted
  obtain ⟨plan, _, planned, inserted⟩ := Action.bind_eq_ok.1 inserted
  obtain ⟨made, rfl⟩ := Action.ofExcept_eq_ok.1 planned
  obtain ⟨rows, left, executed, inserted⟩ := Action.bind_eq_ok.1 inserted
  cases inserted
  refine ⟨plan, rows, made, rfl, ?_⟩
  obtain ⟨readAllow, root, records, found, _, planned⟩ := make_eq_ok made
  obtain ⟨parts, image⟩ := isImage_of_planned planned
  have registered := Registry.entity_name found
  obtain ⟨entered, middle, opened, _, ran, committed⟩ := within_unit_eq_ok laws closed executed
  obtain ⟨stillOpen, _, _, each⟩ := executeOperations_stored faithful opened
    (fun _ member => image.table_found consistent registered member)
    (fun _ member => image.no_conflict member) (distinct plan made) image.numbers_distinct
    (fun _ _ => rfl) ran
  rw [committed stillOpen]
  exact each

end Repository

end RecordGraph
