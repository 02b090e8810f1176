import RecordGraph.Insert.Compile
import RecordGraph.Proofs.Result
import RecordGraph.Proofs.Schema.Reachable
import Mathlib.Data.List.Basic
import Mathlib.Tactic.SplitIfs

/-!
Contract: what an insert is compiled to.

Owns: `CompiledInsert.clause`, and that a compiled insert is its clause with the rows and the policy
that were given.
Does not own: the effect of statements.
-/

namespace RecordGraph

open RecordGraph.Sql

namespace CompiledInsert

variable {table : Table} {rows : List Record} {dialect : Dialect} {policy : Option ConflictPolicy}
variable {returning : Option Bool} {compiled : CompiledInsert}

/-- The conflict clause of an insert that is compiled. -/
def clause (table : Table) (rows : List Record) (dialect : Dialect) (policy : Option ConflictPolicy) :
    Result ConflictClause :=
  if rows.isEmpty then throw (.nothingToInsert table.name)
  else
    match unknownNames table rows, policy with
    | name :: names, _ => throw (.unknownInsertColumns table.name (name :: names))
    | [], none => (checkEven rows).map fun _ => .nothing
    | [], some policy => conflictClause table rows dialect policy

/-- An insert is compiled to its clause, and to what it asks for. -/
theorem compile_eq (table : Table) (rows : List Record) (dialect : Dialect)
    (policy : Option ConflictPolicy) (returning : Option Bool) :
    compile table rows dialect policy returning =
      (clause table rows dialect policy).map fun conflict => {
        statement := {
          table, rows, conflict, returning := returning.getD dialect.insertReturning }
        policy
        contract := {
          returning := returning.getD dialect.insertReturning
          maySuppress := policy.any fun policy => policy.action = .ignore }
        dialect } := by
  unfold compile clause
  by_cases isEmpty : rows.isEmpty = true
  · rw [if_pos isEmpty, if_pos isEmpty]
    rfl
  · rw [if_neg isEmpty, if_neg isEmpty]
    unfold compileRows
    cases unknownNames table rows with
    | cons name names => rfl
    | nil =>
        cases policy with
        | none =>
            dsimp only
            cases checkEven rows <;> rfl
        | some policy =>
            dsimp only
            cases conflictClause table rows dialect policy <;> rfl

theorem compileRows_eq (returning : Bool) (nonempty : rows ≠ []) :
    compileRows table rows dialect policy returning =
      compile table rows dialect policy (some returning) := by
  unfold compile
  rw [if_neg (by simpa using nonempty)]
  rfl

theorem clause_of_compile (compiles : compile table rows dialect policy returning = .ok compiled) :
    clause table rows dialect policy = .ok compiled.statement.conflict := by
  rw [compile_eq] at compiles
  obtain ⟨conflict, isClause, rfl⟩ := Result.map_eq_ok.1 compiles
  exact isClause

theorem statement_of_compile
    (compiles : compile table rows dialect policy returning = .ok compiled) :
    compiled.statement.table = table ∧ compiled.statement.rows = rows ∧
      compiled.statement.returning = returning.getD dialect.insertReturning := by
  rw [compile_eq] at compiles
  obtain ⟨conflict, _, rfl⟩ := Result.map_eq_ok.1 compiles
  exact ⟨rfl, rfl, rfl⟩

theorem contract_of_compile
    (compiles : compile table rows dialect policy returning = .ok compiled) :
    compiled.contract.returning = returning.getD dialect.insertReturning ∧
      compiled.contract.maySuppress = policy.any fun policy => policy.action = .ignore := by
  rw [compile_eq] at compiles
  obtain ⟨conflict, _, rfl⟩ := Result.map_eq_ok.1 compiles
  exact ⟨rfl, rfl⟩

theorem insertSorted_ne_nil (text : String) (texts : List String) : insertSorted text texts ≠ [] := by
  cases texts with
  | nil => exact List.cons_ne_nil _ _
  | cons other rest =>
      rw [insertSorted]
      split_ifs <;> exact List.cons_ne_nil _ _

/-- No name is unknown exactly if each is that of a column. -/
theorem unknownNames_eq_nil_iff :
    unknownNames table rows = [] ↔ ∀ row ∈ rows, ∀ name ∈ row.names, table.hasColumn name = true := by
  have sorted : ∀ texts : List String, texts.foldr insertSorted [] = [] ↔ texts = [] := by
    intro texts
    cases texts with
    | nil => exact iff_of_true rfl rfl
    | cons text rest => exact iff_of_false (insertSorted_ne_nil _ _) (List.cons_ne_nil _ _)
  rw [unknownNames, sorted, List.filter_eq_nil_iff, List.forall_mem_flatMap]
  simp

/-- Without a policy there is nothing to be done on a collision. -/
theorem conflict_of_compile (compiles : compile table rows dialect none returning = .ok compiled) :
    compiled.statement.conflict = .nothing := by
  have isClause := clause_of_compile compiles
  unfold clause at isClause
  split at isClause
  · cases isClause
  · split at isClause
    · cases isClause
    · obtain ⟨_, _, isNothing⟩ := Result.map_eq_ok.1 isClause
      exact isNothing.symm
    · rename_i impossible
      cases impossible

end CompiledInsert

end RecordGraph
