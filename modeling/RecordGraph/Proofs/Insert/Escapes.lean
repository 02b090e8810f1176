import RecordGraph.Proofs.Insert.Checks

/-!
Contract: how the compilation of an insert fails.

Owns: `CompiledInsert.InOrder`, `CompiledInsert.Unmergeable`, and which failures are none of the
library's own.
Does not own: what a compiled insert is.

The rows, the dialect and the target of a policy are checked, and a failed check is a statement error.
The columns to overwrite are not: one that the table lacks, or none at all, comes to light only as the
clause is put together, and what fails then is not the library.
-/

namespace RecordGraph

open RecordGraph.Sql

namespace CompiledInsert

variable {table : Table} {rows : List Record} {dialect : Dialect} {policy : ConflictPolicy}
  {error : Error} {cause : Foreign}

/-! ## Columns to overwrite -/

/-- Why the columns that a policy overwrites cannot be: the first of them that the table lacks, or that
there are none. -/
inductive Unmergeable (table : Table) (rows : List Record) (policy : ConflictPolicy) :
    Foreign → Prop where
  | missing {before after : List String} {name : String} :
      policy.merge = some (before ++ name :: after) →
        (∀ other ∈ before, table.hasColumn other = true) → table.hasColumn name = false →
          Unmergeable table rows policy (.missingEntry name)
  | noneListed : policy.merge = some [] → Unmergeable table rows policy .emptyUpdate
  /-- Without a list, neither the rows nor the target have a column. -/
  | noneFound : policy.merge = none → (∀ row ∈ rows, row = []) → policy.target table = [] →
      Unmergeable table rows policy .emptyUpdate

/-- Without a list, columns of the table are overwritten. -/
theorem hasColumn_of_mem_mergeColumns (names : policy.Names table) (unlisted : policy.merge = none)
    {name : String} (member : name ∈ mergeColumns table rows policy (policy.target table)) :
    table.hasColumn name = true := by
  unfold mergeColumns at member
  rw [unlisted] at member
  dsimp only at member
  split at member
  · exact ConflictPolicy.hasColumn_of_mem_target names member
  · exact Table.hasColumn_iff.2 (List.mem_of_mem_filter (List.mem_of_mem_filter member))

/-- Without a list there is nothing to overwrite only if there is neither a value nor a target. -/
theorem mergeColumns_eq_nil_iff (unlisted : policy.merge = none)
    (known : ∀ row ∈ rows, ∀ name ∈ row.names, table.hasColumn name = true) :
    mergeColumns table rows policy (policy.target table) = [] ↔
      (∀ row ∈ rows, row = []) ∧ policy.target table = [] := by
  -- With no target, every name of a row is one of the columns to overwrite.
  have isEmpty_iff : ∀ target : List String, target = [] →
      (((table.columnNames.filter fun name => rows.any (·.has name)).filter
        (!target.contains ·)) = [] ↔ ∀ row ∈ rows, row = []) := by
    rintro target rfl
    simp only [List.filter_eq_nil_iff, List.mem_filter, List.any_eq_true]
    constructor
    · intro lacks row isRow
      refine List.eq_nil_iff_forall_not_mem.2 fun field isField => ?_
      have isName := List.mem_map_of_mem (f := Prod.fst) isField
      exact lacks field.1 ⟨Table.hasColumn_iff.1 (known row isRow _ isName), row, isRow,
        List.any_eq_true.2 ⟨field, isField, beq_self_eq_true _⟩⟩ rfl
    · rintro areEmpty name ⟨_, row, isRow, has⟩ _
      rw [areEmpty row isRow] at has
      cases has
  unfold mergeColumns
  rw [unlisted]
  dsimp only
  split
  · rename_i noneOutside
    constructor
    · intro noTarget
      exact ⟨(isEmpty_iff _ noTarget).1 noneOutside, noTarget⟩
    · exact And.right
  · rename_i nonempty
    refine iff_of_false nonempty ?_
    rintro ⟨areEmpty, noTarget⟩
    exact nonempty ((isEmpty_iff _ noTarget).2 areEmpty)

/-- The check of the columns to overwrite fails exactly for what cannot be merged. -/
theorem checkMerge_of_policy (names : policy.Names table)
    (known : ∀ row ∈ rows, ∀ name ∈ row.names, table.hasColumn name = true) :
    checkMerge table (mergeColumns table rows policy (policy.target table)) = .error error ↔
      ∃ cause, error = .foreign cause ∧ Unmergeable table rows policy cause := by
  rw [checkMerge_eq_error_iff]
  constructor
  · rintro (⟨before, name, after, isSplit, isKnown, lacks, rfl⟩ | ⟨isEmpty, rfl⟩)
    · cases listed : policy.merge with
      | some columns =>
          rw [mergeColumns, listed] at isSplit
          exact ⟨_, rfl, .missing (listed.trans (congrArg some isSplit)) isKnown lacks⟩
      | none =>
          have isColumn : table.hasColumn name = true :=
            hasColumn_of_mem_mergeColumns names listed (by rw [isSplit]; simp)
          rw [lacks] at isColumn
          cases isColumn
    · cases listed : policy.merge with
      | some columns =>
          rw [mergeColumns, listed] at isEmpty
          exact ⟨_, rfl, .noneListed (listed.trans (congrArg some isEmpty))⟩
      | none =>
          obtain ⟨areEmpty, noTarget⟩ := (mergeColumns_eq_nil_iff listed known).1 isEmpty
          exact ⟨_, rfl, .noneFound listed areEmpty noTarget⟩
  · rintro ⟨cause, rfl, unmergeable⟩
    cases unmergeable with
    | missing listed isKnown lacks =>
        rw [mergeColumns, listed]
        exact Or.inl ⟨_, _, _, rfl, isKnown, lacks, rfl⟩
    | noneListed listed =>
        rw [mergeColumns, listed]
        exact Or.inr ⟨rfl, rfl⟩
    | noneFound unlisted areEmpty noTarget =>
        exact Or.inr ⟨(mergeColumns_eq_nil_iff unlisted known).2 ⟨areEmpty, noTarget⟩, rfl⟩

/-! ## Compilation -/

/-- Whether everything that is checked about an insert with a policy is in order. -/
structure InOrder (table : Table) (rows : List Record) (dialect : Dialect) (policy : ConflictPolicy) :
    Prop where
  nonempty : rows ≠ []
  known : ∀ row ∈ rows, ∀ name ∈ row.names, table.hasColumn name = true
  even : ∀ row ∈ rows, ∀ other ∈ rows, ∀ name ∈ row.names, name ∈ other.names
  supported : dialect ≠ .mssql
  names : policy.Names table

/-- An insert that merges, that is in order, and whose columns to overwrite cannot be. -/
def Escapes (table : Table) (rows : List Record) (dialect : Dialect) (policy : Option ConflictPolicy)
    (cause : Foreign) : Prop :=
  ∃ chosen, policy = some chosen ∧ chosen.action = .merge ∧ InOrder table rows dialect chosen ∧
    Unmergeable table rows chosen cause

theorem clause_of_escapes {policy : Option ConflictPolicy}
    (escapes : Escapes table rows dialect policy cause) :
    clause table rows dialect policy = .error (.foreign cause) := by
  obtain ⟨chosen, rfl, merges, inOrder, unmergeable⟩ := escapes
  unfold clause
  rw [if_neg (by simpa using inOrder.nonempty), unknownNames_eq_nil_iff.2 inOrder.known]
  exact conflictClause_eq_error_iff.2 (Or.inr ⟨inOrder.supported, Or.inr
    ⟨_, ConflictPolicy.targetColumns_of_names inOrder.names, Or.inr
      ⟨checkEven_eq_ok_iff.2 inOrder.even, merges,
        (checkMerge_of_policy inOrder.names inOrder.known).2 ⟨cause, rfl, unmergeable⟩⟩⟩⟩)

/-- The clause of a policy for known rows fails in its class, or what it overwrites escapes. -/
theorem conflictClause_fails (nonempty : rows ≠ [])
    (known : ∀ row ∈ rows, ∀ name ∈ row.names, table.hasColumn name = true)
    (failed : conflictClause table rows dialect policy = .error error) :
    error.kind = .statement ∨
      ∃ cause, error = .foreign cause ∧ Escapes table rows dialect (some policy) cause := by
  rcases conflictClause_eq_error_iff.1 failed with
    ⟨_, rfl⟩ | ⟨supported, atTarget | ⟨target, isTarget, atRows | ⟨isEven, merges, atMerge⟩⟩⟩
  · exact Or.inl rfl
  · by_cases names : policy.Names table
    · cases (ConflictPolicy.targetColumns_of_names names).symm.trans atTarget
    · obtain ⟨missing, isError⟩ := ConflictPolicy.targetColumns_of_not_names names
      cases isError.symm.trans atTarget
      exact Or.inl rfl
  · rcases checkEven_eq rows with isEven | isError
    · cases isEven.symm.trans atRows
    · cases isError.symm.trans atRows
      exact Or.inl rfl
  · obtain ⟨names, rfl⟩ := ConflictPolicy.names_of_targetColumns isTarget
    obtain ⟨cause, isForeign, unmergeable⟩ := (checkMerge_of_policy names known).1 atMerge
    exact Or.inr ⟨cause, isForeign, policy, rfl, merges,
      ⟨nonempty, known, checkEven_eq_ok_iff.1 isEven, supported, names⟩, unmergeable⟩

theorem clause_fails {policy : Option ConflictPolicy}
    (failed : clause table rows dialect policy = .error error) :
    error.kind = .statement ∨
      ∃ cause, error = .foreign cause ∧ Escapes table rows dialect policy cause := by
  unfold clause at failed
  by_cases isEmpty : rows.isEmpty = true
  · rw [if_pos isEmpty] at failed
    cases failed
    exact Or.inl rfl
  · rw [if_neg isEmpty] at failed
    cases areUnknown : unknownNames table rows with
    | cons name names =>
        rw [areUnknown] at failed
        cases failed
        exact Or.inl rfl
    | nil =>
        rw [areUnknown] at failed
        cases policy with
        | none =>
            rcases checkEven_eq rows with isEven | isError
            · rw [isEven] at failed
              cases failed
            · rw [isError] at failed
              cases failed
              exact Or.inl rfl
        | some policy =>
            exact conflictClause_fails (by simpa using isEmpty) (unknownNames_eq_nil_iff.1 areUnknown)
              failed

/-- An insert is compiled or refused as a statement, unless it merges, is in order otherwise, and
overwrites a column that the table lacks, or none. Then the failure is that of the collaborator, and
the reason is the first column of the list that is missing, or that there is none. -/
theorem compile_in_class_iff (table : Table) (rows : List Record) (dialect : Dialect)
    (policy : Option ConflictPolicy) (returning : Option Bool) :
    (((∃ compiled, compile table rows dialect policy returning = .ok compiled) ∨
      ∃ error, compile table rows dialect policy returning = .error error ∧
        error.kind = .statement) ↔
      ¬ ∃ cause, Escapes table rows dialect policy cause) ∧
    ∀ cause, compile table rows dialect policy returning = .error (.foreign cause) ↔
      Escapes table rows dialect policy cause := by
  have escapes_iff : ∀ cause, compile table rows dialect policy returning = .error (.foreign cause) ↔
      Escapes table rows dialect policy cause := by
    intro cause
    rw [compile_eq, Result.map_eq_error]
    constructor
    · intro failed
      rcases clause_fails failed with inClass | ⟨_, same, escapes⟩
      · cases inClass
      · cases same
        exact escapes
    · exact clause_of_escapes
  refine ⟨?_, escapes_iff⟩
  constructor
  · rintro inClass ⟨cause, escapes⟩
    have escaped := (escapes_iff cause).2 escapes
    rcases inClass with ⟨compiled, compiles⟩ | ⟨error, refused, isStatement⟩
    · cases escaped.symm.trans compiles
    · cases escaped.symm.trans refused
      cases isStatement
  · intro within
    cases outcome : compile table rows dialect policy returning with
    | ok compiled => exact Or.inl ⟨compiled, rfl⟩
    | error error =>
        rw [compile_eq, Result.map_eq_error] at outcome
        rcases clause_fails outcome with inClass | ⟨cause, _, escapes⟩
        · exact Or.inr ⟨error, rfl, inClass⟩
        · exact absurd ⟨cause, escapes⟩ within

/-! ## A merge of a column that is not there -/

def film : Table where
  name := "film"
  columns := [
    { name := "id", type := .integer, primaryKey := true }, { name := "title", type := .string }]

/-- The row of a film. -/
def ran : Record := [("id", .int 1), ("title", .text "Ran")]

/-- A row that is merged on its key. -/
def mergeFilm (update : Option (List String)) : Result CompiledInsert :=
  compile film [ran] .sqlite (some (.mergeOn ["id"] update)) none

/-- A merge on the key escapes for a column that is not there, and not by default. -/
theorem compile_in_class_iff_film :
    Escapes film [ran] .sqlite (some (.mergeOn ["id"] (some ["title", "nope"])))
        (.missingEntry "nope") ∧
      ¬ ∃ cause, Escapes film [ran] .sqlite (some (.mergeOn ["id"] none)) cause :=
  ⟨((compile_in_class_iff film [ran] .sqlite _ none).2 _).1 rfl,
    (compile_in_class_iff film [ran] .sqlite _ none).1.1 (Or.inl ⟨_, rfl⟩)⟩

/-- A target column that is missing is refused as a statement. A missing column to overwrite is not,
nor is an empty list of them. -/
theorem missing_merge_escapes :
    (compile film [[("id", .int 1)]] .sqlite (some (.mergeOn ["nope"] none)) none =
      .error (.missingConflictColumns "film" ["nope"]) ∧
    mergeFilm (some ["title", "nope"]) = .error (.foreign (.missingEntry "nope")) ∧
    mergeFilm (some []) = .error (.foreign .emptyUpdate)) ∧
    ¬ ∀ (table : Table) (rows : List Record) (dialect : Dialect) (policy : ConflictPolicy)
        (returning : Option Bool), rows ≠ [] →
      (∃ compiled, compile table rows dialect (some policy) returning = .ok compiled) ∨
        ∃ error, compile table rows dialect (some policy) returning = .error error ∧
          error.kind = .statement := by
  have escaped : mergeFilm (some ["title", "nope"]) = .error (.foreign (.missingEntry "nope")) := rfl
  refine ⟨⟨rfl, escaped, rfl⟩, fun inClass => ?_⟩
  rcases inClass film [ran] .sqlite (.mergeOn ["id"] (some ["title", "nope"])) none
    (List.cons_ne_nil _ []) with ⟨compiled, compiles⟩ | ⟨error, refused, isStatement⟩
  · cases escaped.symm.trans compiles
  · cases escaped.symm.trans refused
    cases isStatement

end CompiledInsert

end RecordGraph
