import RecordGraph.Proofs.Fetch.Batch
import RecordGraph.Proofs.Fetch.Breadth

/-!
Contract: nesting by levels is nesting row by row.

Owns: `Snapshot.nest`, which evaluates a relation tree with one query for each row and relation, and
its equality with the nesting of fetched levels.
Does not own: how levels are fetched.
-/

namespace RecordGraph

open RecordGraph.Sql

namespace FetchPlan

/-- The fetched rows of a level by the keys of their parents. -/
def keyedAt (fetched : LevelRows) (index : Nat) : List FetchLevel.KeyedRow :=
  (fetched.lookup index).getD []

/-- The rows below which a level is nested. -/
def rowsAt (roots : List Record) (fetched : LevelRows) (index : Nat) : List Record :=
  if index = 0 then roots else (keyedAt fetched index).map (·.2)

/-- Whether for each row above a level the fetched rows that match it are those related to it. -/
def Relates (db : Snapshot) (roots : List Record) (fetched : LevelRows) (level : FetchLevel) :
    Prop :=
  ∀ parent ∈ rowsAt roots fetched level.parent,
    db.related level parent = .ok (level.matching (keyedAt fetched level.index) parent)

/-- Nests the rows of a level into a row above it. -/
def nestLevel (plan : FetchPlan) (fetched : LevelRows) (depth : Nat) (row : Record)
    (level : FetchLevel) : Record :=
  level.nestRows ((level.matching (keyedAt fetched level.index) row).map
    (plan.complete fetched depth level.index)) row

theorem complete_succ (plan : FetchPlan) (fetched : LevelRows) (depth index : Nat) (row : Record) :
    plan.complete fetched (depth + 1) index row =
      (plan.levels.filter (·.parent = index)).foldl (plan.nestLevel fetched depth) row := by
  rw [complete]
  rfl

/-- Whether a row has the columns of another one, beside what is nested into it. -/
def KeepsColumns (entity : Entity) (original row : Record) : Prop :=
  ∀ name, entity.hasColumn name = true → row.getD name = original.getD name

theorem KeepsColumns.nestRows {entity : Entity} {original row : Record} {level : FetchLevel}
    (keeps : KeepsColumns entity original row)
    (unshadowed : entity.hasColumn level.relation.name = false) (related : List Record) :
    KeepsColumns entity original (level.nestRows related row) := by
  intro name isColumn
  have apart : level.relation.name ≠ name := by
    rintro rfl
    rw [isColumn] at unshadowed
    cases unshadowed
  unfold FetchLevel.nestRows Record.getD
  rw [Record.get?_set_of_ne row _ apart]
  exact keeps name isColumn

theorem mem_of_mem_matching {level : FetchLevel} {rows : List FetchLevel.KeyedRow}
    {parent row : Record} (member : row ∈ level.matching rows parent) : row ∈ rows.map (·.2) := by
  obtain ⟨keyed, isMatch, rfl⟩ := List.mem_map.1 member
  exact List.mem_map_of_mem (List.mem_of_mem_filter isMatch)

section Nesting

variable {db : Snapshot} {registry : Registry} {config : Config} {plan : FetchPlan}
variable {roots : List Record} {fetched : LevelRows}

theorem complete_eq_foldl {owner path : String} {index : Nat} {tree : RelationTree Filter}
    (covers : Covers registry config plan.levels owner path index tree
      (plan.levels.filter (·.parent = index))) {depth : Nat} (deep : tree.height ≤ depth)
    (row : Record) :
    plan.complete fetched depth index row =
      (plan.levels.filter (·.parent = index)).foldl (plan.nestLevel fetched (depth - 1)) row := by
  cases depth with
  | succ depth => exact complete_succ plan fetched depth index row
  | zero =>
      -- a tree without height has no levels
      cases tree with
      | cons name filter children siblings =>
          rw [RelationTree.height] at deep
          omega
      | nil =>
          generalize plan.levels.filter (·.parent = index) = levels at covers ⊢
          cases covers
          rw [complete]
          rfl

end Nesting

end FetchPlan

end RecordGraph
