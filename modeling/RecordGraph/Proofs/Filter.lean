import RecordGraph.Filter
import RecordGraph.Proofs.Result

/-!
Contract: what filters do to selections.

Owns: that a filter adds the same conditions and the same ordering to every selection of the same
columns.
Does not own: what conditions and orderings mean.
-/

namespace RecordGraph

open RecordGraph.Sql

namespace Sql.Select

/-- A selection with further conditions and a further ordering. -/
def extend (select : Select) (conditions : List Condition) (order : List OrderTerm) : Select :=
  { select with conditions := select.conditions ++ conditions, order := select.order ++ order }

/-- Whether two selections select the same columns. -/
def SameColumns (left right : Select) : Prop :=
  left.table = right.table ∧ left.join = right.join

theorem SameColumns.term {left right : Select} (same : left.SameColumns right) (name : String) :
    left.term name = right.term name := by
  unfold Select.term Select.term?
  rw [same.1, same.2]

theorem SameColumns.termAt? {left right : Select} (same : left.SameColumns right) (position : Int) :
    left.termAt? position = right.termAt? position := by
  unfold Select.termAt? Select.terms
  rw [same.1, same.2]

theorem extend_nil (select : Select) : select.extend [] [] = select := by
  unfold extend
  rw [List.append_nil, List.append_nil]

theorem extend_extend (select : Select) (conditions conditions' : List Condition)
    (order order' : List OrderTerm) :
    (select.extend conditions order).extend conditions' order' =
      select.extend (conditions ++ conditions') (order ++ order') := by
  unfold extend
  rw [List.append_assoc, List.append_assoc]

theorem restrict_eq_extend (select : Select) (condition : Condition) :
    select.restrict condition = select.extend [condition] [] := by
  unfold restrict extend
  rw [List.append_nil]

theorem restrict_make {term : Term} {operator : Operator} {value : Value} {condition : Condition}
    (isCondition : Condition.make term operator value = .ok condition) (base : Select) :
    (do return base.restrict (← Condition.make term operator value) : Result Select) =
      .ok (base.extend [condition] []) := by
  rw [isCondition, ← restrict_eq_extend]
  rfl

theorem sortBy_eq_extend (select : Select) (order : List OrderTerm) :
    select.sortBy order = select.extend [] order := by
  unfold sortBy extend
  rw [List.append_nil]

end Sql.Select

namespace Filter

/-- A filter that fits a selection fits every selection of the same columns, and adds the same to
each. -/
theorem apply_eq_ok {filter : Filter} {select applied : Select}
    (applies : filter.apply select = .ok applied) :
    ∃ conditions order, ∀ base : Select, base.SameColumns select →
      filter.apply base = .ok (base.extend conditions order) := by
  induction filter generalizing select applied with
  | pass => exact ⟨[], [], fun base _ => by rw [Select.extend_nil]; rfl⟩
  | refuse error => cases applies
  | compare column operator value skipNull =>
      unfold apply at applies
      by_cases skipped : (value.isNull && skipNull) = true
      · refine ⟨[], [], fun base _ => ?_⟩
        rw [Select.extend_nil, apply, if_pos skipped]
        rfl
      · rw [if_neg skipped] at applies
        rcases Result.bind_eq_ok.1 applies with ⟨term, isTerm, applies⟩
        rcases Result.bind_eq_ok.1 applies with ⟨condition, isCondition, _⟩
        refine ⟨[condition], [], fun base same => ?_⟩
        rw [apply, if_neg skipped, same.term, isTerm]
        exact Select.restrict_make isCondition base
  | compareAt position missing operator value skipNull =>
      unfold apply at applies
      by_cases skipped : (value.isNull && skipNull) = true
      · refine ⟨[], [], fun base _ => ?_⟩
        rw [Select.extend_nil, apply, if_pos skipped]
        rfl
      · rw [if_neg skipped] at applies
        cases isTerm : select.termAt? position with
        | none =>
            rw [isTerm] at applies
            cases applies
        | some term =>
            rw [isTerm] at applies
            rcases Result.bind_eq_ok.1 applies with ⟨condition, isCondition, _⟩
            refine ⟨[condition], [], fun base same => ?_⟩
            rw [apply, if_neg skipped, same.termAt?, isTerm]
            exact Select.restrict_make isCondition base
  | restrict condition =>
      refine ⟨[condition], [], fun base _ => ?_⟩
      rw [← Select.restrict_eq_extend]
      rfl
  | sortBy columns =>
      unfold apply at applies
      rcases Result.bind_eq_ok.1 applies with ⟨order, isOrder, _⟩
      refine ⟨[], order, fun base same => ?_⟩
      have sameTerm : base.term = select.term := funext same.term
      rw [apply, sameTerm, isOrder, ← Select.sortBy_eq_extend]
      rfl
  | both first second firstHypothesis secondHypothesis =>
      unfold apply at applies
      rcases Result.bind_eq_ok.1 applies with ⟨middle, isMiddle, applies⟩
      rcases firstHypothesis isMiddle with ⟨conditions, order, adds⟩
      have isExtended : middle = select.extend conditions order := by
        have isApplied := adds select ⟨rfl, rfl⟩
        rw [isMiddle] at isApplied
        exact Except.ok.inj isApplied
      rcases secondHypothesis applies with ⟨conditions', order', adds'⟩
      refine ⟨conditions ++ conditions', order ++ order', fun base same => ?_⟩
      rw [apply, adds base same, ← Select.extend_extend]
      apply adds' (base.extend conditions order)
      rw [isExtended]
      exact same

theorem applyOptional_eq_ok {filter : Option Filter} {select applied : Select}
    (applies : applyOptional filter select = .ok applied) :
    ∃ conditions order, ∀ base : Select, base.SameColumns select →
      applyOptional filter base = .ok (base.extend conditions order) := by
  cases filter with
  | none => exact ⟨[], [], fun base _ => by rw [Select.extend_nil]; rfl⟩
  | some filter => exact apply_eq_ok applies

/-- A filter that does not fit a selection fits no selection of the same columns, and fails alike on
each. -/
theorem apply_eq_error {filter : Filter} {select base : Select} {failure : Error}
    (fails : filter.apply select = .error failure) (same : base.SameColumns select) :
    filter.apply base = .error failure := by
  induction filter generalizing select base with
  | pass => cases fails
  | refuse error => exact fails
  | compare column operator value skipNull =>
      unfold apply at fails ⊢
      rw [same.term]
      split at fails
      · cases fails
      · rename_i notSkipped
        rw [if_neg notSkipped]
        rcases Result.bind_eq_error.1 fails with fails | ⟨term, isTerm, fails⟩
        · exact Result.bind_eq_error.2 (Or.inl fails)
        · rw [isTerm]
          exact Result.bind_pure_eq_error fails
  | compareAt position missing operator value skipNull =>
      unfold apply at fails ⊢
      rw [same.termAt?]
      split at fails
      · cases fails
      · rename_i notSkipped
        rw [if_neg notSkipped]
        cases isTerm : select.termAt? position with
        | none =>
            rw [isTerm] at fails
            exact fails
        | some term =>
            rw [isTerm] at fails
            exact Result.bind_pure_eq_error fails
  | restrict condition => cases fails
  | sortBy columns =>
      unfold apply at fails ⊢
      have sameTerm : base.term = select.term := funext same.term
      rw [sameTerm]
      exact Result.bind_pure_eq_error fails
  | both first second firstHypothesis secondHypothesis =>
      unfold apply at fails ⊢
      cases firstRan : first.apply select with
      | error other =>
          rw [firstRan] at fails
          cases fails
          rw [firstHypothesis firstRan same]
          rfl
      | ok middle =>
          rw [firstRan] at fails
          obtain ⟨conditions, order, adds⟩ := apply_eq_ok firstRan
          cases firstRan.symm.trans (adds select ⟨rfl, rfl⟩)
          rw [adds base same]
          exact secondHypothesis fails same

theorem applyOptional_eq_error {filter : Option Filter} {select base : Select} {failure : Error}
    (fails : applyOptional filter select = .error failure) (same : base.SameColumns select) :
    applyOptional filter base = .error failure := by
  cases filter with
  | none => cases fails
  | some filter => exact apply_eq_error fails same

end Filter

end RecordGraph
