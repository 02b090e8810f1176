import RecordGraph.Proofs.Insert.Compile

/-!
Contract: what the checks of an insert with a policy say.

Owns: `ConflictPolicy.Names`, `ConflictPolicy.target`, when rows are even, and how a clause succeeds
and fails.
Does not own: which columns are overwritten.
-/

namespace RecordGraph

open RecordGraph.Sql

namespace ConflictPolicy

variable {policy : ConflictPolicy} {table : Table}

/-- Whether every column that a policy targets is one of the table. -/
def Names (policy : ConflictPolicy) (table : Table) : Prop :=
  ∀ columns, policy.columns = some columns → ∀ name ∈ columns, table.hasColumn name = true

/-- The columns that a policy targets. -/
def target (policy : ConflictPolicy) (table : Table) : List String :=
  match policy.columns with
  | none | some [] => table.keyNames
  | some columns => columns

theorem targetColumns_of_names (names : policy.Names table) :
    policy.targetColumns table = .ok (policy.target table) := by
  unfold targetColumns target
  match isColumns : policy.columns with
  | none => rfl
  | some [] => rfl
  | some (first :: rest) =>
      have noneMissing : (first :: rest).filter (!table.hasColumn ·) = [] := by
        rw [List.filter_eq_nil_iff]
        intro name member
        simp [names _ isColumns name member]
      dsimp only
      rw [noneMissing]
      rfl

theorem targetColumns_of_not_names (lacks : ¬ policy.Names table) :
    ∃ missing, policy.targetColumns table = .error (.missingConflictColumns table.name missing) := by
  unfold targetColumns
  split
  · rename_i isNone
    refine absurd (fun columns isColumns => ?_) lacks
    cases isNone.symm.trans isColumns
  · rename_i isEmpty
    refine absurd (fun columns isColumns => ?_) lacks
    cases isEmpty.symm.trans isColumns
    exact fun _ member => absurd member List.not_mem_nil
  · rename_i columns _ isColumns
    split
    · rename_i noneMissing
      refine absurd (fun others isOthers => ?_) lacks
      cases isColumns.symm.trans isOthers
      rw [List.filter_eq_nil_iff] at noneMissing
      exact fun name member => by simpa using noneMissing name member
    · exact ⟨_, rfl⟩

/-- The target can be told only of columns of the table. -/
theorem names_of_targetColumns {target : List String}
    (isTarget : policy.targetColumns table = .ok target) :
    policy.Names table ∧ target = policy.target table := by
  by_cases names : policy.Names table
  · exact ⟨names, Except.ok.inj (isTarget.symm.trans (targetColumns_of_names names))⟩
  · obtain ⟨missing, isError⟩ := targetColumns_of_not_names names
    cases isTarget.symm.trans isError

/-- The columns of a target are those of the table. -/
theorem hasColumn_of_mem_target (names : policy.Names table) {name : String}
    (member : name ∈ policy.target table) : table.hasColumn name = true := by
  have ofKey : ∀ name ∈ table.keyNames, table.hasColumn name = true := by
    intro name member
    obtain ⟨column, isColumn, rfl⟩ := List.mem_map.1 member
    exact List.any_eq_true.2 ⟨column, (List.mem_filter.1 isColumn).1, beq_self_eq_true _⟩
  unfold target at member
  split at member
  · exact ofKey name member
  · exact ofKey name member
  · rename_i columns _ isColumns
    exact names columns isColumns name member

end ConflictPolicy

namespace CompiledInsert

variable {table : Table} {rows : List Record} {dialect : Dialect} {policy : ConflictPolicy}
  {columns : List String} {error : Error}

/-! ## Rows -/

theorem checkEven_eq (rows : List Record) :
    checkEven rows = .ok () ∨ checkEven rows = .error .unevenRows := by
  unfold checkEven
  split
  · split
    · exact Or.inl rfl
    · exact Or.inr rfl
  · exact Or.inl rfl

theorem sameNames_iff {left right : Record} :
    left.sameNames right = true ↔ ∀ name, name ∈ left.names ↔ name ∈ right.names := by
  have has : ∀ (record : Record) (name : String), record.has name = true ↔ name ∈ record.names := by
    intro record name
    simp [Record.has, Record.names]
  unfold Record.sameNames
  rw [Bool.and_eq_true, List.all_eq_true, List.all_eq_true]
  simp only [has]
  exact ⟨fun both name => ⟨both.1 name, both.2 name⟩,
    fun same => ⟨fun name => (same name).1, fun name => (same name).2⟩⟩

/-- Rows are even exactly if any two of them have the same names. -/
theorem checkEven_eq_ok_iff : checkEven rows = .ok () ↔
    ∀ row ∈ rows, ∀ other ∈ rows, ∀ name ∈ row.names, name ∈ other.names := by
  match rows with
  | [] => exact iff_of_true rfl fun _ member => absurd member List.not_mem_nil
  | [row] => exact iff_of_true rfl (by simp)
  | first :: second :: rest =>
      have isOk : checkEven (first :: second :: rest) = .ok () ↔
          ∀ row ∈ second :: rest, ∀ name, name ∈ first.names ↔ name ∈ row.names := by
        simp only [← sameNames_iff, ← List.all_eq_true]
        change (if (second :: rest).all (Record.sameNames first) = true then pure ()
          else throw .unevenRows : Result Unit) = .ok () ↔ _
        by_cases same : (second :: rest).all (Record.sameNames first) = true
        · rw [if_pos same]
          exact iff_of_true rfl same
        · rw [if_neg same]
          exact iff_of_false Result.throw_ne_ok same
      rw [isOk]
      constructor
      · intro same row isRow other isOther name isName
        have atFirst : ∀ row ∈ first :: second :: rest, (name ∈ first.names ↔ name ∈ row.names) :=
          List.forall_mem_cons.2 ⟨Iff.rfl, fun row isRow => same row isRow name⟩
        exact (atFirst other isOther).1 ((atFirst row isRow).2 isName)
      · intro within row isRow name
        have isLater := List.mem_cons_of_mem first isRow
        exact ⟨within first (List.mem_cons_self ..) row isLater name,
          within row isLater first (List.mem_cons_self ..) name⟩

/-! ## Columns to overwrite -/

theorem checkMerge_eq_error_iff : checkMerge table columns = .error error ↔
    (∃ before name after, columns = before ++ name :: after ∧
      (∀ other ∈ before, table.hasColumn other = true) ∧ table.hasColumn name = false ∧
        error = .foreign (.missingEntry name)) ∨
      columns = [] ∧ error = .foreign .emptyUpdate := by
  unfold checkMerge
  cases found : columns.find? (!table.hasColumn ·) with
  | some name =>
      obtain ⟨lacks, before, after, rfl, known⟩ := List.find?_eq_some_iff_append.1 found
      constructor
      · intro failed
        cases failed
        exact Or.inl ⟨before, name, after, rfl, by simpa using known, by simpa using lacks, rfl⟩
      · rintro (⟨before', name', after', isSplit, known', lacks', rfl⟩ | ⟨isEmpty, _⟩)
        · have again : (before ++ name :: after).find? (!table.hasColumn ·) = some name' :=
            List.find?_eq_some_iff_append.2
              ⟨by simpa using lacks', before', after', isSplit, by simpa using known'⟩
          cases found.symm.trans again
          rfl
        · simp at isEmpty
  | none =>
      have known : ∀ name ∈ columns, table.hasColumn name = true := by
        intro name member
        simpa using List.find?_eq_none.1 found name member
      dsimp only
      constructor
      · intro failed
        split at failed
        · rename_i isEmpty
          cases failed
          exact Or.inr ⟨List.isEmpty_iff.1 isEmpty, rfl⟩
        · cases failed
      · rintro (⟨before, name, after, rfl, _, lacks, _⟩ | ⟨rfl, rfl⟩)
        · have isKnown := known name (by simp)
          rw [lacks] at isKnown
          cases isKnown
        · rfl

/-! ## Clauses -/

/-- A clause fails where the dialect has none, or else at the target of its policy, at the rows, or at
the columns to overwrite, in this order. -/
theorem conflictClause_eq_error_iff : conflictClause table rows dialect policy = .error error ↔
    (dialect = .mssql ∧ error = .unsupportedConflict dialect.name) ∨
      dialect ≠ .mssql ∧ (policy.targetColumns table = .error error ∨
        ∃ target, policy.targetColumns table = .ok target ∧ (checkEven rows = .error error ∨
          checkEven rows = .ok () ∧ policy.action = .merge ∧
            checkMerge table (mergeColumns table rows policy target) = .error error)) := by
  have resolved : ∀ next : List String → Result ConflictClause,
      (∀ target, next target = .error error ↔ policy.action = .merge ∧
        checkMerge table (mergeColumns table rows policy target) = .error error) →
      ((policy.targetColumns table >>= fun target => checkEven rows >>= fun _ => next target) =
        .error error ↔ (policy.targetColumns table = .error error ∨
          ∃ target, policy.targetColumns table = .ok target ∧ (checkEven rows = .error error ∨
            checkEven rows = .ok () ∧ policy.action = .merge ∧
              checkMerge table (mergeColumns table rows policy target) = .error error))) := by
    intro next fails
    rw [Result.bind_eq_error]
    refine or_congr Iff.rfl (exists_congr fun target => and_congr Iff.rfl ?_)
    rw [Result.bind_eq_error]
    refine or_congr Iff.rfl ?_
    constructor
    · rintro ⟨⟨⟩, isEven, failed⟩
      exact ⟨isEven, (fails target).1 failed⟩
    · rintro ⟨isEven, failed⟩
      exact ⟨(), isEven, (fails target).2 failed⟩
  cases dialect
  case mssql =>
    constructor
    · intro failed
      cases failed
      exact Or.inl ⟨rfl, rfl⟩
    · rintro (⟨_, rfl⟩ | ⟨supported, _⟩)
      · rfl
      · exact absurd rfl supported
  all_goals
    refine (resolved _ fun target => ?_).trans (by simp)
    cases policy.action with
    | ignore => simp [pure, Except.pure]
    | merge =>
        rw [Result.bind_eq_error]
        constructor
        · rintro (failed | ⟨_, _, impossible⟩)
          · exact ⟨rfl, failed⟩
          · cases impossible
        · rintro ⟨_, failed⟩
          exact Or.inl failed

/-- A clause succeeds if none of its checks fails. -/
theorem conflictClause_succeeds_iff :
    (∃ conflict, conflictClause table rows dialect policy = .ok conflict) ↔
      dialect ≠ .mssql ∧ ∃ target, policy.targetColumns table = .ok target ∧
        checkEven rows = .ok () ∧ (policy.action = .merge →
          checkMerge table (mergeColumns table rows policy target) = .ok ()) := by
  constructor
  · rintro ⟨conflict, compiles⟩
    have unfailing : ∀ error, conflictClause table rows dialect policy ≠ .error error := by
      intro error failed
      cases compiles.symm.trans failed
    have supported : dialect ≠ .mssql := by
      rintro rfl
      exact unfailing _ rfl
    have noFailure := fun error atCheck =>
      unfailing error (conflictClause_eq_error_iff.2 (Or.inr ⟨supported, atCheck⟩))
    cases isTarget : policy.targetColumns table with
    | error error => exact absurd (Or.inl isTarget) (noFailure error)
    | ok target =>
        have laterOk := fun error atLater => noFailure error (Or.inr ⟨target, isTarget, atLater⟩)
        cases isEven : checkEven rows with
        | error error => exact absurd (Or.inl isEven) (laterOk error)
        | ok _ =>
            refine ⟨supported, target, rfl, rfl, fun merges => ?_⟩
            cases checked : checkMerge table (mergeColumns table rows policy target) with
            | error error => exact absurd (Or.inr ⟨isEven, merges, checked⟩) (laterOk error)
            | ok _ => rfl
  · rintro ⟨supported, target, isTarget, isEven, checked⟩
    cases outcome : conflictClause table rows dialect policy with
    | ok conflict => exact ⟨conflict, rfl⟩
    | error error =>
        rcases conflictClause_eq_error_iff.1 outcome with
          ⟨isMssql, _⟩ | ⟨_, atTarget | ⟨other, isOther, atRows | ⟨_, merges, atMerge⟩⟩⟩
        · exact absurd isMssql supported
        · cases isTarget.symm.trans atTarget
        · cases isEven.symm.trans atRows
        · cases isTarget.symm.trans isOther
          cases (checked merges).symm.trans atMerge

end CompiledInsert

end RecordGraph
