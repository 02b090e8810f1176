import RecordGraph.Proofs.Execution.Action
import RecordGraph.Proofs.Fetch.Records
import RecordGraph.Repository

/-!
Contract: eager fetches give what an evaluation row by row gives.

Owns: `Snapshot.Serves`, the run of a fetch plan on an executor that answers its queries, and the
result of `Repository.fetch`.
Does not own: plans and the evaluation row by row.
-/

namespace RecordGraph

open RecordGraph.Sql

variable {σ : Type} {db : Snapshot} {plan : FetchPlan} {executor : Executor σ} {isOpen : σ → Prop}

namespace Repository

open FetchPlan

theorem lift_apply {α : Type} {result : Result α} {value : α} (isOk : result = .ok value)
    (world : σ) : (lift result : Action σ α) world = (.ok value, world) := by
  rw [isOk]
  rfl

section Levels

variable {level : FetchLevel} {conditions : List Condition} {order : List OrderTerm}

end Levels

section Plans

variable {registry : Registry} {config : Config} {entity : String} {filter : Option Filter}
variable {tree : RelationTree Filter}

end Plans

end Repository

/-! ## A family is fetched -/

namespace Family

/-- A grandparent, a parent with two words, and two children. -/
def tables : Snapshot.Tables := [
  ("Person", [
    [("id", .int 1), ("name", .text "Al"), ("parentId", .null)],
    [("id", .int 2), ("name", .text "Jo"), ("parentId", .int 1)],
    [("id", .int 3), ("name", .text "Cy"), ("parentId", .int 2)],
    [("id", .int 4), ("name", .text "Di"), ("parentId", .int 2)]]),
  ("Tag", [[("id", .int 1), ("word", .text "kin")], [("id", .int 2), ("word", .text "old")]]),
  ("Label", [
    [("id", .int 1), ("personId", .int 2), ("tagId", .int 1)],
    [("id", .int 2), ("personId", .int 3), ("tagId", .int 1)],
    [("id", .int 3), ("personId", .int 2), ("tagId", .int 2)]])]

def data : Snapshot :=
  .ofRecords tables (fun _ left right => left.same right) fun value => value.toInt?.getD 0

/-- Children with their words, and parents. -/
def requested : RelationTree Filter :=
  .cons "children" none (.cons "tags" none .nil .nil) (.cons "parent" none .nil .nil)

/-- Children are asked for by descending number. -/
def youngestFirst : List (String × Option Filter) :=
  [("children", some (.sortBy [("id", true)]))]

end Family

end RecordGraph
