import RecordGraph.Plan.Fetch
import RecordGraph.Proofs.Fetch.Snapshot
import RecordGraph.Proofs.Filter
import RecordGraph.Proofs.Schema.Reachable

/-!
Contract: single levels of a fetch plan.

Owns: what a planned level selects, how its rows tell their parents, and what its rows show.
Does not own: the keys that a level is built for.
-/

namespace RecordGraph

open RecordGraph.Sql

namespace FetchLevel

/-- How the rows of a level tell their parents. -/
inductive Correlates (level : FetchLevel) : Prop where
  /-- By a column of their own. -/
  | own (key : Column) (statement : level.statement = .ofTable level.entity.table)
      (isMatch : level.entity.table.column? level.matchColumn = some key)
      (keyTerm : level.keyTerm = Term.ofColumn level.entity.table key)
      (shown : level.hidden = none)
  /-- By the owner column of a join table, under a label. -/
  | joined (join : Join)
      (statement : level.statement = { table := level.entity.table, join := some join })
      (isMatch : level.matchColumn = join.label)
      (keyTerm : level.keyTerm = Term.ofColumn join.through join.owner)
      (hidden : level.hidden = some join.label)

/-- Whether a level loads a relation. -/
structure Loads (registry : Registry) (relation : Relation) (level : FetchLevel) : Prop where
  loaded : level.relation = relation
  entity : registry.entity relation.target = .ok level.entity
  owner : level.ownerColumn = relation.sourceKey.column
  correlates : level.Correlates

end FetchLevel

namespace FetchPlan

theorem columnOf_eq_ok {table : Table} {name : String} {column : Column} :
    columnOf table name = .ok column ↔ table.column? name = some column := by
  unfold columnOf
  cases table.column? name with
  | none => exact iff_of_false Result.throw_ne_ok (Option.some_ne_none column).symm
  | some found => rw [Result.pure_eq_ok, Option.some_inj]

theorem column?_of_column?_name {table : Table} {name : String} {column : Column}
    (found : table.column? name = some column) : table.column? column.name = some column := by
  rw [Table.name_of_column? found]
  exact found

theorem levelFor_eq_ok {registry : Registry} {config : Config} {relation : Relation} {path : String}
    {parent index : Nat} {filter : Option Filter} {level : FetchLevel}
    (built : levelFor registry config relation path parent index filter = .ok level) :
    level.Loads registry relation ∧ level.index = index ∧ level.parent = parent ∧
      level.filter = filter := by
  rcases Result.bind_eq_ok.1 built with ⟨entity, isEntity, built⟩
  dsimp only at built
  split at built
  · split at built
    · cases built
    · rename_i through isThrough
      rcases Result.bind_eq_ok.1 built with ⟨table, isTable, built⟩
      rcases Result.bind_eq_ok.1 built with ⟨owner, isOwner, built⟩
      rcases Result.bind_eq_ok.1 built with ⟨link, isLink, built⟩
      rcases Result.bind_eq_ok.1 built with ⟨key, isKey, built⟩
      cases Result.pure_eq_ok.1 built
      exact ⟨⟨rfl, isEntity, rfl, .joined _ rfl rfl rfl rfl⟩, rfl, rfl, rfl⟩
  · rcases Result.bind_eq_ok.1 built with ⟨key, isKey, built⟩
    cases Result.pure_eq_ok.1 built
    refine ⟨⟨rfl, isEntity, rfl, .own key rfl ?_ rfl rfl⟩, rfl, rfl, rfl⟩
    exact column?_of_column?_name (columnOf_eq_ok.1 isKey)

end FetchPlan

namespace FetchLevel

/-- The query of a level whose filter adds conditions and an ordering. -/
def query (level : FetchLevel) (conditions : List Condition) (order : List OrderTerm)
    (keys : List Value) : Select :=
  (level.statement.restrict (.among level.keyTerm keys)).extend conditions order

/-- Whether a level can be built, and what its filter adds. -/
def Adds (level : FetchLevel) (conditions : List Condition) (order : List OrderTerm) : Prop :=
  ∀ keys, level.build keys = .ok (level.query conditions order keys)

/-- A filter that fits the statement of a level adds the same for all keys. -/
theorem exists_adds {level : FetchLevel} {applied : Select}
    (applies : Filter.applyOptional level.filter level.statement = .ok applied) :
    ∃ conditions order, level.Adds conditions order := by
  rcases Filter.applyOptional_eq_ok applies with ⟨conditions, order, adds⟩
  exact ⟨conditions, order, fun keys => adds _ ⟨rfl, rfl⟩⟩

section Query

variable {level : FetchLevel} {conditions : List Condition} {order : List OrderTerm}

theorem shape_query (keys keys' : List Value) :
    (level.query conditions order keys).shape = (level.query conditions order keys').shape := by
  unfold query Select.restrict Select.extend Select.shape
  simp only [List.map_append, List.map_cons, Condition.shape]

theorem holds_query (db : Snapshot) (keys : List Value) (row : db.Row) :
    (level.query conditions order keys).conditions.all (db.holds row) =
      (db.holds row (.among level.keyTerm keys) &&
        (level.statement.conditions ++ conditions).all (db.holds row)) := by
  unfold query Select.restrict Select.extend
  simp only [List.all_append, List.all_cons, List.all_nil, Bool.and_true]
  rw [Bool.and_comm (level.statement.conditions.all _), Bool.and_assoc]

end Query

/-! ## What rows show -/

section Rows

variable {level : FetchLevel} {db : Snapshot}

/-- Whether the label of a level's join, if there is one, names no column of the level's rows. -/
def Unlabelled (level : FetchLevel) : Prop :=
  ∀ label, level.hidden = some label → level.entity.hasColumn label = false

theorem visible_project (correlates : level.Correlates) (unlabelled : level.Unlabelled)
    (conditions : List Condition) (order : List OrderTerm) (keys : List Value) (row : db.Row) :
    level.visible (db.project (level.query conditions order keys) row) =
      db.columns level.entity.table row := by
  unfold visible Snapshot.project query Select.restrict Select.extend
  cases correlates with
  | own key statement isMatch keyTerm shown =>
      rw [shown, statement]
      exact List.append_nil _
  | joined join statement isMatch keyTerm hidden =>
      rw [hidden, statement]
      exact db.erase_labelled (unlabelled join.label hidden) row

end Rows

end FetchLevel

end RecordGraph
