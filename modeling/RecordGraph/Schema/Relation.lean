import RecordGraph.Error

/-!
Contract: relations between entities.

Owns: `RelationKind`, `Through`, `Relation`, and `RelationDeclaration`, a relation whose join
columns are still text.
Does not own: agreement with the tables; `RecordGraph.Schema.Registry` checks it.

How rows are joined, with `source` the entity that declares the relation:

* has many: `source.sourceKey` is referenced by `target.targetKey`;
* belongs to one: `source.sourceKey` references `target.targetKey`;
* many to many: a row of the through table carries `source.sourceKey` and `target.targetKey`.
-/

namespace RecordGraph

inductive RelationKind where
  | hasMany
  | belongsToOne
  | manyToMany
deriving DecidableEq, Repr, Inhabited

def RelationKind.isCollection : RelationKind → Bool
  | .belongsToOne => false
  | _ => true

/-- The two columns of a join table. -/
structure Through where
  source : ColumnRef
  target : ColumnRef
deriving DecidableEq, Repr, Inhabited

def Through.table (through : Through) : String := through.source.table

/-- A named, directed edge between two entities. -/
structure Relation where
  name : String
  kind : RelationKind
  target : String
  sourceKey : ColumnRef
  targetKey : ColumnRef
  through : Option Through := none
deriving DecidableEq, Repr, Inhabited

/-- A relation as it is declared, with its join columns as text. -/
structure RelationDeclaration where
  kind : RelationKind
  target : String
  source : String
  destination : String
  through : Option (String × String) := none
deriving DecidableEq, Repr, Inhabited

def ColumnRef.read (text : String) : Result ColumnRef :=
  match ColumnRef.ofString? text with
  | some ref => .ok ref
  | none => .error (.malformedColumnRef text)

/-- Reads the join columns of a declaration, those of the join table first. -/
def RelationDeclaration.build (declaration : RelationDeclaration) (name : String) :
    Result Relation := do
  let through ←
    match declaration.kind, declaration.through with
    | .manyToMany, some (source, target) =>
        let source ← ColumnRef.read source
        let target ← ColumnRef.read target
        pure (some { source, target })
    | _, _ => pure none
  let sourceKey ← ColumnRef.read declaration.source
  let targetKey ← ColumnRef.read declaration.destination
  pure {
    name, kind := declaration.kind, target := declaration.target, sourceKey, targetKey, through }

end RecordGraph
