import RecordGraph.Proofs.Insert.Checks
import RecordGraph.Proofs.Store.Asking
import RecordGraph.Proofs.Store.Proposed

/-!
Contract: inserts of one row that are compiled and accepted.

Owns: `Column.Takes`, `Table.outside`, the conflict clauses of policies, that an insert of values
that their columns take is accepted, and that it does not depend on the values of a row whether the
row is compiled.
Does not own: what the statement does.
-/

namespace RecordGraph

open RecordGraph.Sql

/-! ## Values -/

/-- Whether a value can be bound for a column, and stored. -/
def Column.Takes (column : Column) (value : Value) : Prop :=
  ∃ bound, Cell.boundValue column.type value = some bound ∧ Database.refusal? 1 bound = none

namespace Database

/-- Whether a value is refused does not depend on where it is bound. -/
theorem refusal?_eq_none_iff (position : Nat) (value : Value) :
    refusal? position value = none ↔ refusal? 1 value = none := by
  unfold refusal?
  cases value with
  | list _ | object _ => exact iff_of_false nofun nofun
  | _ => exact Iff.rfl

/-- Parameters all of which can be bound and stored are accepted. -/
theorem bound_of_parameters {parameters : List Parameter}
    (binds : ∀ parameter ∈ parameters, ∃ bound,
      Cell.boundValue parameter.type parameter.value = some bound ∧ refusal? 1 bound = none) :
    ∃ values, boundValues parameters = some values ∧
      ∀ position, firstRefusal position values = none := by
  unfold boundValues
  induction parameters with
  | nil => exact ⟨[], rfl, fun _ => rfl⟩
  | cons parameter rest inductionHypothesis =>
      rw [List.forall_mem_cons] at binds
      obtain ⟨⟨bound, isBound, free⟩, restBinds⟩ := binds
      obtain ⟨values, restBound, restFree⟩ := inductionHypothesis restBinds
      refine ⟨bound :: values, ?_, fun position => ?_⟩
      · rw [List.mapM_cons, isBound, restBound]
        rfl
      · rw [firstRefusal, (refusal?_eq_none_iff position bound).2 free]
        exact restFree (position + 1)

end Database

namespace Sql.Insert

/-- The insert of one row that is not asked for. -/
def ofRow (table : Table) (values : Record) (conflict : ConflictClause) : Insert :=
  { table, rows := [values], conflict }

variable {insert : Insert} {values : Record}

/-- An insert has columns if its first row names one. -/
theorem columns_ne_nil {rest : List Record} (isRows : insert.rows = values :: rest)
    (nonempty : values ≠ []) (known : ∀ name ∈ values.names, insert.table.hasColumn name = true) :
    insert.columns ≠ [] := by
  obtain ⟨field, others, rfl⟩ := List.exists_cons_of_ne_nil nonempty
  have isColumn := known field.1 (List.mem_cons_self ..)
  unfold Table.hasColumn at isColumn
  obtain ⟨column, inTable, isNamed⟩ := List.any_eq_true.1 isColumn
  unfold columns
  rw [isRows]
  refine List.ne_nil_of_mem (a := column) (List.mem_filter.2 ⟨inTable, ?_⟩)
  have same : column.name = field.1 := by simpa using isNamed
  rw [same]
  simp [Record.has]

/-- The parameters of an insert of one row are the values that its columns are given. -/
theorem parameters_single (isSingle : insert.rows = [values]) {parameter : Parameter}
    (member : parameter ∈ (insert.render .sqlite).parameters) :
    ∃ column ∈ insert.columns, parameter.type = column.type ∧
      parameter.value = values.getD column.name := by
  have inValues : parameter ∈ (insert.renderValues .sqlite).parameters := by
    unfold render at member
    rcases List.mem_append.1 member with atFront | atEnd
    · rcases List.mem_append.1 atFront with atWord | inValues
      · exact absurd atWord List.not_mem_nil
      · exact inValues
    · exact absurd atEnd List.not_mem_nil
  unfold renderValues at inValues
  cases isColumns : insert.columns with
  | nil =>
      rw [isColumns] at inValues
      exact absurd inValues List.not_mem_nil
  | cons first rest =>
      rw [isColumns, isSingle] at inValues
      rcases List.mem_append.1 inValues with atNames | inRows
      · exact absurd atNames List.not_mem_nil
      · obtain ⟨rendered, isRow, inRow⟩ := List.mem_flatMap.1 inRows
        rw [renderRows, renderRows, List.mem_singleton] at isRow
        subst isRow
        rcases List.mem_append.1 inRow with inRow | atEnd
        · rcases List.mem_append.1 inRow with atStart | inRow
          · exact absurd atStart List.not_mem_nil
          · obtain ⟨piece, isPiece, inPiece⟩ := List.mem_flatMap.1 inRow
            obtain ⟨column, isColumn, rfl⟩ := List.mem_map.1 isPiece
            rw [isColumns] at isColumn
            rw [List.mem_singleton.1 inPiece]
            exact ⟨column, isColumn, rfl, rfl⟩
        · exact absurd atEnd List.not_mem_nil

/-- An insert of values that their columns take is accepted. -/
theorem accepts_of_takes (isSingle : insert.rows = [values])
    (takes : ∀ column ∈ insert.table.columns, values.has column.name = true →
      column.Takes (values.getD column.name)) : Database.Accepts (.insert insert) := by
  have binds : ∀ parameter ∈ (insert.render .sqlite).parameters, ∃ bound,
      Cell.boundValue parameter.type parameter.value = some bound ∧
        Database.refusal? 1 bound = none := by
    intro parameter member
    obtain ⟨column, isColumn, isType, isValue⟩ := parameters_single isSingle member
    unfold columns at isColumn
    rw [isSingle] at isColumn
    obtain ⟨inTable, has⟩ := List.mem_filter.1 isColumn
    rw [isType, isValue]
    exact takes column inTable has
  obtain ⟨bound, isBound, free⟩ := Database.bound_of_parameters binds
  exact accepts_iff.2 ⟨bound, isBound, free 1⟩

end Sql.Insert

/-! ## Clauses -/

namespace Table

/-- The columns outside a target that a record names, in table order. -/
def outside (table : Table) (target : List String) (record : Record) : List String :=
  table.columnNames.filter fun name => record.has name && !target.contains name

theorem mem_outside_iff {table : Table} {target : List String} {record : Record} {name : String} :
    name ∈ table.outside target record ↔
      name ∈ table.columnNames ∧ record.has name = true ∧ name ∉ target := by
  unfold outside
  simp

/-- A key has columns, all of them of the table. -/
theorem key_columns {table : Table} {key : List String} (isKey : key ∈ table.keys) :
    key ≠ [] ∧ ∀ name ∈ key, name ∈ table.columnNames := by
  rcases List.mem_append.1 isKey with isPrimary | isUnique
  · split at isPrimary
    · exact absurd isPrimary List.not_mem_nil
    · rename_i isNonempty
      rw [List.mem_singleton.1 isPrimary]
      refine ⟨fun isEmpty => isNonempty ?_, fun name member => ?_⟩
      · rw [List.isEmpty_iff]
        exact List.map_eq_nil_iff.1 isEmpty
      · exact (List.filter_sublist.map _).subset member
  · obtain ⟨nonempty, _, areColumns⟩ := columns_of_uniqueKey isUnique
    exact ⟨nonempty, areColumns⟩

end Table

namespace CompiledInsert

variable {table : Table} {values : Record} {policy : ConflictPolicy} {target : List String}

theorem unknownNames_single (known : ∀ name ∈ values.names, table.hasColumn name = true) :
    unknownNames table [values] = [] :=
  unknownNames_eq_nil_iff.2 (by simpa using known)

theorem clause_single (known : ∀ name ∈ values.names, table.hasColumn name = true) :
    clause table [values] .sqlite (some policy) = conflictClause table [values] .sqlite policy := by
  unfold clause
  refine (if_neg Bool.false_ne_true).trans ?_
  rw [unknownNames_single known]

/-- The clause of a policy that ignores collisions of its target. -/
theorem clause_ignore (known : ∀ name ∈ values.names, table.hasColumn name = true)
    (ignores : policy.action = .ignore) (isTarget : policy.targetColumns table = .ok target) :
    clause table [values] .sqlite (some policy) = .ok (.keepOn target) := by
  rw [clause_single known]
  unfold conflictClause
  rw [isTarget, ignores]
  rfl

/-- The clause of a policy that merges on its target. -/
theorem clause_merge (known : ∀ name ∈ values.names, table.hasColumn name = true)
    (merges : policy.action = .merge) (isTarget : policy.targetColumns table = .ok target)
    (checked : checkMerge table (mergeColumns table [values] policy target) = .ok ()) :
    clause table [values] .sqlite (some policy) =
      .ok (.overwriteOn target (mergeColumns table [values] policy target)) := by
  rw [clause_single known]
  unfold conflictClause
  rw [isTarget, merges]
  change (checkMerge table (mergeColumns table [values] policy target) >>= fun _ => _) = _
  rw [checked]
  rfl

/-- Without a list the columns outside the target are overwritten, or else the target. -/
theorem mergeColumns_of_default (unlisted : policy.merge = none) :
    mergeColumns table [values] policy target =
      if table.outside target values = [] then target else table.outside target values := by
  have isOutside : (table.columnNames.filter fun name => [values].any (·.has name)).filter
      (!target.contains ·) = table.outside target values := by
    unfold Table.outside
    rw [List.filter_filter]
    refine List.filter_congr fun name _ => ?_
    rw [List.any_cons, List.any_nil, Bool.or_false, Bool.and_comm]
  unfold mergeColumns
  rw [unlisted]
  dsimp only
  rw [isOutside]
  cases table.outside target values with
  | nil => rfl
  | cons first rest => rfl

theorem checkMerge_eq_ok {columns : List String} (nonempty : columns ≠ [])
    (known : ∀ name ∈ columns, name ∈ table.columnNames) : checkMerge table columns = .ok () := by
  have noneMissing : columns.find? (!table.hasColumn ·) = none := by
    rw [List.find?_eq_none]
    intro name member
    simp [Table.hasColumn_iff.2 (known name member)]
  unfold checkMerge
  rw [noneMissing]
  dsimp only
  rw [if_neg (by simpa using nonempty)]
  rfl

/-! ## Values do not matter -/

end CompiledInsert

end RecordGraph
