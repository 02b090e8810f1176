import RecordGraph.Proofs.Insert.Escapes
import RecordGraph.Sql.Render
import Mathlib.Data.List.Forall2

/-!
Contract: the statements that a compiled insert is split into, one for each of its rows.

Owns: `CompiledInsert.forRow`, `CompiledInsert.IsPart`, and that an insert that does not ask for its
rows is split into its parts.
Does not own: what the statements do when they are run one after another.

The clause of a part is put together again, from its one row instead of all of them. A clause depends
on rows only by the columns that some row names. Rows that are compiled together name the same
columns, so one row says as much as all of them.
-/

namespace RecordGraph

open RecordGraph.Sql

namespace CompiledInsert

variable {table : Table} {rows : List Record} {row : Record} {dialect : Dialect}
  {compiled : CompiledInsert}

/-! ## Clauses of one row and of all -/

/-- Rows with the same columns overwrite the columns that any one of them does. -/
theorem mergeColumns_of_even (even : checkEven rows = .ok ()) (isRow : row ∈ rows)
    (policy : ConflictPolicy) (target : List String) :
    mergeColumns table [row] policy target = mergeColumns table rows policy target := by
  have sameInserted : ∀ name, [row].any (·.has name) = rows.any (·.has name) := by
    have has : ∀ (record : Record) (name : String), record.has name = true ↔ name ∈ record.names := by
      intro record name
      simp [Record.has, Record.names]
    intro name
    rw [List.any_cons, List.any_nil, Bool.or_false, Bool.eq_iff_iff, List.any_eq_true]
    constructor
    · exact fun isNamed => ⟨row, isRow, isNamed⟩
    · rintro ⟨other, isOther, isNamed⟩
      rw [has] at isNamed ⊢
      exact checkEven_eq_ok_iff.1 even other isOther row isRow name isNamed
  unfold mergeColumns
  simp only [sameInserted]

theorem conflictClause_of_even (even : checkEven rows = .ok ()) (isRow : row ∈ rows)
    (policy : ConflictPolicy) :
    conflictClause table [row] dialect policy = conflictClause table rows dialect policy := by
  have isEven : checkEven [row] = .ok () := rfl
  unfold conflictClause
  simp only [even, isEven, mergeColumns_of_even even isRow]

/-- Rows that have a clause together have the same columns. -/
theorem even_of_clause {policy : Option ConflictPolicy} {conflict : ConflictClause}
    (isClause : clause table rows dialect policy = .ok conflict) : checkEven rows = .ok () := by
  unfold clause at isClause
  split at isClause
  · cases isClause
  · split at isClause
    · cases isClause
    · obtain ⟨_, isEven, _⟩ := Result.map_eq_ok.1 isClause
      exact isEven
    · obtain ⟨_, _, _, isEven, _⟩ := conflictClause_succeeds_iff.1 ⟨conflict, isClause⟩
      exact isEven

/-- Each row has the clause of all rows. -/
theorem clause_of_mem {policy : Option ConflictPolicy} {conflict : ConflictClause}
    (isClause : clause table rows dialect policy = .ok conflict) (isRow : row ∈ rows) :
    clause table [row] dialect policy = .ok conflict := by
  have even := even_of_clause isClause
  have known : unknownNames table rows = [] := by
    unfold clause at isClause
    split at isClause
    · cases isClause
    · split at isClause
      · cases isClause
      · assumption
      · assumption
  have knownRow : unknownNames table [row] = [] := by
    rw [unknownNames_eq_nil_iff] at known ⊢
    exact List.forall_mem_singleton.2 (known row isRow)
  have isSome : rows.isEmpty = false := by
    rw [List.isEmpty_eq_false_iff]
    exact List.ne_nil_of_mem isRow
  rw [← isClause]
  unfold clause
  rw [known, knownRow, isSome, List.isEmpty_cons]
  cases policy with
  | none =>
      dsimp only
      rw [even]
      rfl
  | some policy => exact conflictClause_of_even even isRow policy

/-! ## Parts -/

/-- The insert of one row of an insert, which does not ask for the row. -/
def forRow (compiled : CompiledInsert) (row : Record) : CompiledInsert :=
  { compiled with
    statement := { compiled.statement with rows := [row], returning := false }
    contract := { compiled.contract with returning := false } }

/-- Whether an insert is the part of another one that inserts one of its rows. -/
structure IsPart (whole : CompiledInsert) (row : Record) (part : CompiledInsert) : Prop where
  /-- It is what the row alone is compiled to. -/
  compiles : compile whole.table [row] whole.dialect whole.policy (some false) = .ok part
  rows : part.rows = [row]
  table : part.table = whole.table
  dialect : part.dialect = whole.dialect
  policy : part.policy = whole.policy
  maySuppress : part.contract.maySuppress = whole.contract.maySuppress
  /-- The clause tells the target of the conflict and the columns that are set. -/
  conflict : part.statement.conflict = whole.statement.conflict
  text : part.statement.renderConflict part.dialect = whole.statement.renderConflict whole.dialect

/-- A row of an insert is compiled to its part. -/
theorem compile_forRow {policy : Option ConflictPolicy} {returning : Option Bool}
    (compiles : compile table rows dialect policy returning = .ok compiled) (isRow : row ∈ rows) :
    compile table [row] dialect policy (some false) = .ok (compiled.forRow row) := by
  rw [compile_eq] at compiles ⊢
  obtain ⟨conflict, isClause, rfl⟩ := Result.map_eq_ok.1 compiles
  rw [clause_of_mem isClause isRow]
  rfl

theorem isPart_forRow {policy : Option ConflictPolicy} {returning : Option Bool}
    (compiles : compile table rows dialect policy returning = .ok compiled) (isRow : row ∈ rows) :
    compiled.IsPart row (compiled.forRow row) where
  compiles := by
    have isPart := compile_forRow compiles isRow
    rw [compile_eq] at compiles
    obtain ⟨conflict, _, rfl⟩ := Result.map_eq_ok.1 compiles
    exact isPart
  rows := rfl
  table := rfl
  dialect := rfl
  policy := rfl
  maySuppress := rfl
  conflict := rfl
  text := rfl

/-- An insert that does not ask for its rows is split into its parts. -/
theorem perRow_eq {policy : Option ConflictPolicy}
    (compiles : compile table rows dialect policy (some false) = .ok compiled) :
    compiled.perRow = .ok (rows.map compiled.forRow) := by
  have parts : ∀ row ∈ rows, compileRows compiled.table [row] compiled.dialect compiled.policy false =
      .ok (compiled.forRow row) := by
    intro row isRow
    rw [compileRows_eq false (List.cons_ne_nil _ _)]
    exact (isPart_forRow compiles isRow).compiles
  have isRows : compiled.rows = rows := (statement_of_compile compiles).2.1
  unfold perRow
  rw [isRows]
  split
  · rename_i row
    -- The insert of a single row is not compiled again, and is its own part.
    have isSelf : compiled = compiled.forRow row :=
      Except.ok.inj (compiles.symm.trans (compile_forRow compiles (List.mem_singleton_self row)))
    rw [List.map_singleton, ← isSelf]
    rfl
  · exact Result.mapM_eq_ok_map parts

/-- An insert that is compiled and does not ask for its rows can be split: into one insert for each
row, in order, with the policy and the clause of the whole. -/
theorem split_into_parts (table : Table) (rows : List Record) (dialect : Dialect)
    (policy : Option ConflictPolicy) (compiled : CompiledInsert)
    (compiles : compile table rows dialect policy (some false) = .ok compiled) :
    ∃ parts, compiled.perRow = .ok parts ∧ parts.length = rows.length ∧
      parts.flatMap CompiledInsert.rows = rows ∧ List.Forall₂ compiled.IsPart rows parts := by
  refine ⟨rows.map compiled.forRow, perRow_eq compiles, List.length_map .., ?_, ?_⟩
  · rw [List.flatMap_map]
    exact List.flatMap_singleton' rows
  · rw [List.forall₂_map_right_iff, List.forall₂_same]
    exact fun row isRow => isPart_forRow compiles isRow

/-- A row whose names come in another order. -/
def ikiru : Record := [("title", .text "Ikiru"), ("id", .int 2)]

/-- Two films that are merged on their key. -/
def mergeFilms : Result CompiledInsert :=
  compile film [ran, ikiru] .sqlite (some (.mergeOn ["id"] none)) (some false)

/-- Two films that are merged on their key are split into two merges of the title. -/
theorem films_split_into_parts :
    ∃ compiled, mergeFilms = .ok compiled ∧
      compiled.statement.conflict = .overwriteOn ["id"] ["title"] ∧
      ∃ parts, compiled.perRow = .ok parts ∧ parts.length = 2 ∧
        parts.flatMap CompiledInsert.rows = [ran, ikiru] ∧
        List.Forall₂ compiled.IsPart [ran, ikiru] parts :=
  ⟨_, rfl, rfl, split_into_parts film [ran, ikiru] .sqlite (some (.mergeOn ["id"] none)) _ rfl⟩

end CompiledInsert

end RecordGraph
