import RecordGraph.Proofs.Schema.Reachable

/-!
Contract: what holds of a registry after any calls, whether or not they succeed.

Owns: `Registry.Call`, the registry that calls leave, `Registry.Sound`, and that every such registry
is sound.
Does not own: what the planners make of a sound registry.

A call that fails leaves the registry as it was, so that the registries that calls leave are the
reachable ones.
-/

namespace RecordGraph

/-- Whether a column with foreign keys has one to its counterpart. -/
def Schema.Refers (schema : Schema) (referencing referenced : ColumnRef) : Prop :=
  ∀ column, schema.column? referencing = some column → column.foreignKeys ≠ [] →
    referenced ∈ column.foreignKeys

namespace Registry

/-! ## Calls -/

/-- A call that is to change a registry. -/
inductive Call where
  | register (name : String) (relations : List Relation)
  | freeze

def perform (registry : Registry) : Call → Result Registry
  | .register name relations => registry.register name relations
  | .freeze => registry.freeze

/-- The registry after a call. One that fails changes nothing. -/
def after (registry : Registry) (call : Call) : Registry :=
  match registry.perform call with
  | .ok changed => changed
  | .error _ => registry

/-- The registry after calls in turn. -/
def afterAll (registry : Registry) (calls : List Call) : Registry :=
  calls.foldl after registry

theorem Reachable.after {registry : Registry} (reachable : Reachable registry) (call : Call) :
    Reachable (registry.after call) := by
  unfold Registry.after
  split
  · rename_i changed performed
    cases call with
    | register name relations => exact .register reachable performed
    | freeze => exact .freeze reachable performed
  · exact reachable

theorem Reachable.afterAll (calls : List Call) : ∀ {registry : Registry}, Reachable registry →
    Reachable (registry.afterAll calls) := by
  induction calls with
  | nil => exact id
  | cons call rest inductionHypothesis =>
      exact fun reachable => inductionHypothesis (reachable.after call)

/-! ## Foreign keys -/

theorem joinColumn_found {schema : Schema} {ref : ColumnRef} {expected place : String}
    {column : Column} (found : joinColumn schema ref expected place = .ok column) :
    schema.column? ref = some column := by
  unfold joinColumn at found
  split at found
  · exact absurd found Result.throw_ne_ok
  · rcases Result.bind_eq_ok.1 found with ⟨table, isTable, found⟩
    rw [Schema.column?, tableAs_eq_ok isTable]
    split at found
    · rename_i isColumn
      rw [← Result.pure_eq_ok.1 found]
      exact isColumn
    · exact absurd found Result.throw_ne_ok

theorem findReference_eq_ok {schema : Schema} {referencing referenced : ColumnRef} {place : String}
    {refs : List ColumnRef}
    (found : findReference schema referencing referenced place refs = .ok ()) :
    referenced ∈ refs := by
  induction refs with
  | nil => exact absurd found Result.throw_ne_ok
  | cons ref rest inductionHypothesis =>
      unfold findReference at found
      split at found
      · exact absurd found Result.throw_ne_ok
      · split at found
        · exact absurd found Result.throw_ne_ok
        · split at found
          · rename_i isCounterpart
            rw [isCounterpart]
            exact List.mem_cons_self ..
          · exact List.mem_cons_of_mem _ (inductionHypothesis found)

theorem refers_of_checkReference {schema : Schema} {column : Column}
    {referencing referenced : ColumnRef} {place : String}
    (isColumn : schema.column? referencing = some column)
    (checked : checkReference schema column referencing referenced place = .ok ()) :
    schema.Refers referencing referenced := by
  intro found isFound isForeign
  cases isColumn.symm.trans isFound
  unfold checkReference at checked
  rw [if_neg (by simpa using isForeign)] at checked
  exact findReference_eq_ok checked

/-- Whether the join columns of a relation that have foreign keys have one to their counterpart. -/
structure References (schema : Schema) (relation : Relation) : Prop where
  hasMany : relation.kind = .hasMany → schema.Refers relation.targetKey relation.sourceKey
  belongsToOne : relation.kind = .belongsToOne →
    schema.Refers relation.sourceKey relation.targetKey
  manyToMany : relation.kind = .manyToMany → ∀ through, relation.through = some through →
    schema.Refers through.source relation.sourceKey ∧
      schema.Refers through.target relation.targetKey

theorem references_of_checkRelation {schema : Schema} {entity : String} {relation : Relation}
    (checked : checkRelation schema entity relation = .ok ()) : References schema relation := by
  rcases Result.bind_eq_ok.1 checked with ⟨_, _, checked⟩
  rcases Result.bind_eq_ok.1 checked with ⟨source, sourceFound, checked⟩
  rcases Result.bind_eq_ok.1 checked with ⟨target, targetFound, checked⟩
  have isSource := joinColumn_found sourceFound
  have isTarget := joinColumn_found targetFound
  refine ⟨fun isKind => ?_, fun isKind => ?_, fun isKind through isThrough => ?_⟩
  · rw [isKind] at checked
    exact refers_of_checkReference isTarget checked
  · rw [isKind] at checked
    exact refers_of_checkReference isSource checked
  · rw [isKind, isThrough] at checked
    dsimp only at checked
    split at checked
    · exact absurd checked Result.throw_ne_ok
    · rcases Result.bind_eq_ok.1 checked with ⟨throughSource, throughSourceFound, checked⟩
      rcases Result.bind_eq_ok.1 checked with ⟨throughTarget, throughTargetFound, checked⟩
      rcases Result.bind_eq_ok.1 checked with ⟨_, sourceChecked, targetChecked⟩
      exact ⟨refers_of_checkReference (joinColumn_found throughSourceFound) sourceChecked,
        refers_of_checkReference (joinColumn_found throughTargetFound) targetChecked⟩

theorem checkRelation_of_admitRelation {schema : Schema} {table : Table} {entity : String}
    {relation : Relation} (admitted : admitRelation schema table entity relation = .ok ()) :
    checkRelation schema entity relation = .ok () := by
  unfold admitRelation at admitted
  split at admitted
  · exact absurd admitted Result.throw_ne_ok
  · split at admitted
    · exact absurd admitted Result.throw_ne_ok
    · exact admitted

/-! ## Soundness -/

/-- Whether a relation of an entity agrees with the tables and with its own name. -/
structure SoundRelation (schema : Schema) (entity : Entity) (relation : Relation) : Prop where
  isIdentifier : Text.isIdentifier relation.name = true
  unshadowed : entity.hasColumn relation.name = false
  joins : Joins schema entity.name relation
  references : References schema relation

/-- Whether entities and relations are what the planners take them for. -/
structure Sound (registry : Registry) : Prop where
  table : ∀ entity ∈ registry.entities, registry.schema.table? entity.name = some entity.table
  key : ∀ entity ∈ registry.entities, entity.table.primaryKeys = [entity.key]
  relations : ∀ entity ∈ registry.entities, ∀ relation ∈ entity.relations,
    SoundRelation registry.schema entity relation
  closed : registry.frozen = true → ∀ entity ∈ registry.entities, ∀ relation ∈ entity.relations,
    ∃ target, registry.entity relation.target = .ok target

theorem Reachable.sound {registry : Registry} (reachable : Reachable registry) :
    registry.Sound where
  table := fun entity isEntity => (reachable.consistent.agrees entity isEntity).table
  key := fun entity isEntity => (reachable.consistent.agrees entity isEntity).key
  relations := fun entity isEntity relation isRelation => by
    have admitted := reachable.admitted entity isEntity relation isRelation
    exact {
      isIdentifier := admitRelation_isIdentifier admitted
      unshadowed := (admitRelation_eq_ok admitted).1
      joins := (admitRelation_eq_ok admitted).2
      references := references_of_checkRelation (checkRelation_of_admitRelation admitted) }
  closed := fun frozen entity isEntity relation isRelation =>
    entity_of_contains (reachable.consistent.closed frozen entity isEntity relation isRelation)

end Registry

end RecordGraph
