import RecordGraph.Execution.Executor
import RecordGraph.Proofs.Fetch.Fetched

/-!
Contract: a database of records that suits fetch plans.

Owns: `Snapshot.ofRecords`, its answers to a plan's queries, and the executor that gives them.
Does not own: records that hold anything but scalars.
-/

namespace RecordGraph

open RecordGraph.Sql

namespace Snapshot

/-- Tables of records, by name. -/
abbrev Tables := List (String × List Record)

/-- The values of the records that a selection combines. -/
abbrev Values := ColumnRef → Value

def Tables.records (tables : Tables) (name : String) : List Record :=
  (tables.lookup name).getD []

def valuesOf (name : String) (record : Record) : Values := fun ref =>
  if ref.table = name then record.getD ref.column else .null

/-- The combinations of records that a selection chooses from, those of a join by join row. -/
def combined (tables : Tables) (select : Select) : List Values :=
  match select.join with
  | none => (tables.records select.table.name).map (valuesOf select.table.name)
  | some join => (tables.records join.through.name).flatMap fun link =>
      ((tables.records select.table.name).filter fun record =>
        (link.getD join.link).same (record.getD join.key)).map fun record ref =>
          if ref.table = select.table.name then record.getD ref.column
          else valuesOf join.through.name link ref

/-- Truth of a condition, given the comparison of values. Null compares with nothing. -/
def meets (test : Comparison → Value → Value → Bool) (values : Values) : Condition → Bool
  | .isNull term => (values term.column).isNull
  | .isNotNull term => !(values term.column).isNull
  | .isFlag term flag => Value.same (.bool flag) (values term.column)
  | .isNotFlag term flag =>
      !(values term.column).isNull && !Value.same (.bool flag) (values term.column)
  | .compare comparison term value =>
      !(values term.column).isNull && test comparison (values term.column) value
  | .among term keys => keys.any fun key => key.same (values term.column)
  | .notAmong term keys =>
      !(values term.column).isNull && keys.all fun key => !key.same (values term.column)

/-- The rank of values under a term, turned round for descending order. -/
def rankUnder (rank : Value → Int) (term : OrderTerm) (values : Values) : Int :=
  if term.descending then -rank (values term.term.column) else rank (values term.term.column)

/-- The order of combinations by the first term that tells their ranks apart. -/
def rankedBefore (rank : Value → Int) : List OrderTerm → Values → Values → Bool
  | [], _, _ => true
  | term :: rest, left, right =>
      if rankUnder rank term left < rankUnder rank term right then true
      else if rankUnder rank term right < rankUnder rank term left then false
      else rankedBefore rank rest left right

theorem rankedBefore_cons_iff {rank : Value → Int} {term : OrderTerm} {rest : List OrderTerm}
    {left right : Values} :
    rankedBefore rank (term :: rest) left right = true ↔
      rankUnder rank term left < rankUnder rank term right ∨
        rankUnder rank term left = rankUnder rank term right ∧
          rankedBefore rank rest left right = true := by
  rw [rankedBefore]
  by_cases less : rankUnder rank term left < rankUnder rank term right
  · rw [if_pos less]
    exact iff_of_true rfl (.inl less)
  · rw [if_neg less]
    by_cases greater : rankUnder rank term right < rankUnder rank term left
    · rw [if_pos greater]
      refine iff_of_false Bool.false_ne_true ?_
      omega
    · rw [if_neg greater]
      have same : rankUnder rank term left = rankUnder rank term right := by omega
      constructor
      · exact fun before => .inr ⟨same, before⟩
      · rintro (impossible | ⟨_, before⟩)
        · exact absurd impossible less
        · exact before

theorem rankedBefore_total (rank : Value → Int) (order : List OrderTerm) (left right : Values) :
    (rankedBefore rank order left right || rankedBefore rank order right left) = true := by
  induction order with
  | nil => rfl
  | cons term rest inductionHypothesis =>
      rw [Bool.or_eq_true] at inductionHypothesis ⊢
      rw [rankedBefore_cons_iff, rankedBefore_cons_iff]
      rcases Int.lt_trichotomy (rankUnder rank term left) (rankUnder rank term right) with
        less | same | greater
      · exact .inl (.inl less)
      · rcases inductionHypothesis with before | before
        · exact .inl (.inr ⟨same, before⟩)
        · exact .inr (.inr ⟨same.symm, before⟩)
      · exact .inr (.inl greater)

theorem rankedBefore_trans (rank : Value → Int) (order : List OrderTerm)
    (first second third : Values) (left : rankedBefore rank order first second = true)
    (right : rankedBefore rank order second third = true) :
    rankedBefore rank order first third = true := by
  induction order with
  | nil => rfl
  | cons term rest inductionHypothesis =>
      rw [rankedBefore_cons_iff] at left right ⊢
      rcases left with less | ⟨same, left⟩
      · omega
      · rcases right with less | ⟨same', right⟩
        · omega
        · exact .inr ⟨same.trans same', inductionHypothesis left right⟩

/-- A database of records, given the comparison and the ranks of values. -/
def ofRecords (tables : Tables) (test : Comparison → Value → Value → Bool) (rank : Value → Int) :
    Snapshot where
  Row := Values
  base := combined tables
  holds := meets test
  before := rankedBefore rank
  value values ref _ := values ref
  total := rankedBefore_total rank
  trans := rankedBefore_trans rank

section Scalars

variable {tables : Tables} {test : Comparison → Value → Value → Bool} {rank : Value → Int}

/-- Whether a record holds nothing but scalars. -/
def Scalars (record : Record) : Prop :=
  ∀ field ∈ record, field.2.isKey = true

instance (record : Record) : Decidable (Scalars record) :=
  inferInstanceAs (Decidable (∀ field ∈ record, field.2.isKey = true))

/-- Whether tables hold nothing but scalars. -/
def Tables.Scalar (tables : Tables) : Prop :=
  ∀ entry ∈ tables, ∀ record ∈ entry.2, Scalars record

instance (tables : Tables) : Decidable tables.Scalar :=
  inferInstanceAs (Decidable (∀ entry ∈ tables, ∀ record ∈ entry.2, Scalars record))

theorem Tables.Scalar.records (scalar : tables.Scalar) {name : String} {record : Record}
    (member : record ∈ tables.records name) : Scalars record := by
  unfold Tables.records at member
  cases found : tables.lookup name with
  | none =>
      rw [found] at member
      exact absurd member List.not_mem_nil
  | some records =>
      rw [found] at member
      rcases List.lookup_eq_some_iff.1 found with ⟨before, after, isTables, _⟩
      exact scalar (name, records) (by rw [isTables]; simp) record member

theorem Scalars.getD {record : Record} (scalars : Scalars record) (name : String) :
    (record.getD name).isKey = true := by
  unfold Record.getD Record.get?
  induction record with
  | nil => rfl
  | cons field rest inductionHypothesis =>
      rcases field with ⟨key, value⟩
      unfold Scalars at scalars
      rw [List.forall_mem_cons] at scalars
      rw [Value.field?]
      by_cases same : key = name
      · rw [if_pos same]
        exact scalars.1
      · rw [if_neg same]
        exact inductionHypothesis scalars.2

end Scalars

/-- An executor that gives the answers of a database, and changes nothing. -/
def executor {σ : Type} (db : Snapshot) (dialect : Dialect) : Executor σ where
  dialect
  fetchAll query := pure (db.answer query)
  fetchOne query := pure (db.answer query).head?
  change _ := pure 0
  runInsert _ := pure []

end Snapshot

end RecordGraph
