import Mathlib.Data.List.Basic
import RecordGraph.Proofs.Filter
import RecordGraph.Proofs.Http.Columns

/-!
Contract: whether the filters of query parameters fit the selection that they are meant for.

Owns: `Miswrites` and `OrdersTruth`, and when parameters are turned down or give filters that fit.
Does not own: which comparison the name of a parameter asks for, and what conditions mean.

The text of a parameter is checked when it is read, the comparison only when the filter is applied.
An ordering of truth values passes the first check and fails the second.
-/

namespace RecordGraph.Http

open RecordGraph.Sql

/-! ## Comparisons -/

/-- Whether a comparison asks which of two values comes first. -/
def IsOrdering : Comparison → Prop
  | .greater | .greaterEqual | .less | .lessEqual => True
  | _ => False

def IsPattern : Comparison → Prop
  | .like | .ilike => True
  | _ => False

/-- Whether a value is neither null nor a truth value. -/
def IsPlain : Value → Prop
  | .null | .bool _ => False
  | _ => True

theorem ofComparison_of_plain (term : Term) (comparison : Comparison) {value : Value}
    (isPlain : IsPlain value) :
    Condition.ofComparison term comparison value = .ok (.compare comparison term value) := by
  cases value with
  | null | bool flag => exact isPlain.elim
  | int number => cases comparison <;> rfl
  | float number => cases comparison <;> rfl
  | text chars => cases comparison <;> rfl
  | list items => cases comparison <;> rfl
  | object fields => cases comparison <;> rfl

/-- Truth values can be told apart and not be ordered. -/
theorem ofComparison_of_truth (term : Term) {comparison : Comparison}
    (notPattern : ¬IsPattern comparison) (flag : Bool) :
    (¬IsOrdering comparison →
      ∃ condition, Condition.ofComparison term comparison (.bool flag) = .ok condition) ∧
    (IsOrdering comparison →
      Condition.ofComparison term comparison (.bool flag) =
        .error (.foreign .invalidComparison)) := by
  cases comparison with
  | equal => exact ⟨fun _ => ⟨_, rfl⟩, False.elim⟩
  | unequal => exact ⟨fun _ => ⟨_, rfl⟩, False.elim⟩
  | greater | greaterEqual | less | lessEqual =>
      exact ⟨fun notOrdering => absurd trivial notOrdering, fun _ => rfl⟩
  | like | ilike => exact absurd trivial notPattern

/-! ## Operands -/

section Operands

variable {entity : Entity} {column : Column} {comparison : Comparison}
variable {text : String} {value : Value}

theorem operand_of_pattern (isPattern : IsPattern comparison) :
    operand entity column comparison text = .ok (.text text) := by
  cases comparison with
  | like | ilike => rfl
  | _ => exact isPattern.elim

theorem operand_of_other (notPattern : ¬IsPattern comparison) :
    operand entity column comparison text =
      match readOperand column.type text with
      | some value => .ok value
      | none => .error (.rejected (.invalidValue text entity.name column.name)) := by
  cases comparison with
  | like | ilike => exact absurd trivial notPattern
  | _ => rfl

/-- A text that is no operand is turned down. -/
theorem eq_invalidValue_of_operand {failure : Failure}
    (isRefused : operand entity column comparison text = .error failure) :
    failure = .rejected (.invalidValue text entity.name column.name) := by
  by_cases isPattern : IsPattern comparison
  · rw [operand_of_pattern isPattern] at isRefused
    cases isRefused
  · rw [operand_of_other isPattern] at isRefused
    split at isRefused
    · cases isRefused
    · cases isRefused
      rfl

/-- Only a column of truth values is compared with one. -/
theorem readOperand_cases {type : ColumnType} (isRead : readOperand type text = some value) :
    IsPlain value ∧ type ≠ .boolean ∨
      type = .boolean ∧ ∃ flag, readTruth text = some flag ∧ value = .bool flag := by
  unfold readOperand at isRead
  split at isRead
  · obtain ⟨flag, isTruth, rfl⟩ := Option.map_eq_some_iff.1 isRead
    exact .inr ⟨rfl, flag, isTruth, rfl⟩
  · obtain ⟨number, _, rfl⟩ := Option.map_eq_some_iff.1 isRead
    exact .inl ⟨trivial, nofun⟩
  · obtain ⟨number, _, rfl⟩ := Option.map_eq_some_iff.1 isRead
    exact .inl ⟨trivial, nofun⟩
  · obtain ⟨number, _, rfl⟩ := Option.map_eq_some_iff.1 isRead
    exact .inl ⟨trivial, nofun⟩
  · rename_i notBoolean _ _ _
    cases isRead
    exact .inl ⟨trivial, notBoolean⟩

/-- Whether a truth value is to be ordered: a column of truth values, by the text of one. -/
def Orders (column : Column) (comparison : Comparison) (text : String) : Prop :=
  column.type = .boolean ∧ IsOrdering comparison ∧ ∃ flag, readTruth text = some flag

theorem isPlain_or_truth (isOperand : operand entity column comparison text = .ok value) :
    IsPlain value ∧ ¬Orders column comparison text ∨
      ∃ flag, value = .bool flag ∧ ¬IsPattern comparison ∧
        (Orders column comparison text ↔ IsOrdering comparison) := by
  by_cases isPattern : IsPattern comparison
  · rw [operand_of_pattern isPattern] at isOperand
    cases isOperand
    refine .inl ⟨trivial, fun orders => ?_⟩
    cases comparison with
    | like | ilike => exact orders.2.1
    | _ => exact isPattern
  · rw [operand_of_other isPattern] at isOperand
    cases isRead : readOperand column.type text with
    | none =>
        rw [isRead] at isOperand
        cases isOperand
    | some read =>
        rw [isRead] at isOperand
        cases isOperand
        obtain ⟨isPlain, notBoolean⟩ | ⟨isBoolean, flag, isTruth, rfl⟩ := readOperand_cases isRead
        · exact .inl ⟨isPlain, fun orders => notBoolean orders.1⟩
        · exact .inr ⟨flag, rfl, isPattern, fun orders => orders.2.1,
            fun isOrdering => ⟨isBoolean, isOrdering, flag, isTruth⟩⟩

end Operands

/-! ## One parameter -/

/-- Whether the text of a parameter is no operand of the comparison that it asks for. -/
def Miswrites (entity : Entity) (parameter : Parameter) : Prop :=
  ∃ column comparison failure, Asks entity parameter.1 column comparison ∧
    operand entity column comparison parameter.2 = .error failure

/-- Whether a parameter asks which truth values come before or after one. -/
def OrdersTruth (entity : Entity) (parameter : Parameter) : Prop :=
  ∃ column comparison, Asks entity parameter.1 column comparison ∧
    Orders column comparison parameter.2

section OneParameter

variable {entity : Entity} {column : Column} {comparison : Comparison} {value : Value}
  {parameter : Parameter} {select : Select}

theorem comparing_apply (isColumn : select.table.column? column.name = some column)
    (notNull : value.isNull = false) :
    (comparing column comparison value).apply select =
      (Condition.ofComparison (Term.ofColumn select.table column) comparison value).map
        select.restrict := by
  unfold comparing Filter.apply Select.term Select.term?
  rw [notNull, isColumn]
  show (Condition.ofComparison _ comparison value >>= _) = _
  cases Condition.ofComparison (Term.ofColumn select.table column) comparison value <;> rfl

/-- A filter that a parameter asks for narrows every selection from the table, unless it orders
truth values. Then it fits none. -/
theorem comparing_fits (asks : Asks entity parameter.1 column comparison)
    (isOperand : operand entity column comparison parameter.2 = .ok value)
    (isOver : select.table = entity.table) :
    (¬Orders column comparison parameter.2 ∧ ∃ condition,
      (comparing column comparison value).apply select = .ok (select.restrict condition)) ∨
    (Orders column comparison parameter.2 ∧
      (comparing column comparison value).apply select = .error (.foreign .invalidComparison)) := by
  have isColumn : select.table.column? column.name = some column := by
    rw [isOver]
    exact asks.isColumn
  obtain ⟨isPlain, notOrders⟩ | ⟨flag, rfl, notPattern, orders_iff⟩ := isPlain_or_truth isOperand
  · left
    have notNull : value.isNull = false := by
      cases value with
      | null => exact isPlain.elim
      | _ => rfl
    rw [comparing_apply isColumn notNull, ofComparison_of_plain _ _ isPlain]
    exact ⟨notOrders, _, rfl⟩
  · obtain ⟨fits, failing⟩ :=
      ofComparison_of_truth (Term.ofColumn select.table column) notPattern flag
    rw [comparing_apply isColumn rfl, orders_iff]
    by_cases isOrdering : IsOrdering comparison
    · right
      rw [failing isOrdering]
      exact ⟨isOrdering, rfl⟩
    · left
      obtain ⟨condition, isCondition⟩ := fits isOrdering
      rw [isCondition]
      exact ⟨isOrdering, condition, rfl⟩

/-- How a parameter is read: as nothing, as a filter, or not at all. -/
theorem parameterFilter_cases (entity : Entity) (parameter : Parameter) :
    (parameterFilter entity parameter = .ok none ∧ ¬Miswrites entity parameter ∧
      ¬OrdersTruth entity parameter) ∨
    (∃ column comparison value, Asks entity parameter.1 column comparison ∧
      operand entity column comparison parameter.2 = .ok value ∧ ¬Miswrites entity parameter ∧
      parameterFilter entity parameter = .ok (some (comparing column comparison value))) ∨
    (∃ column : Column, Miswrites entity parameter ∧ parameterFilter entity parameter =
      .error (.rejected (.invalidValue parameter.2 entity.name column.name))) := by
  by_cases asksSomething : ∃ column comparison, Asks entity parameter.1 column comparison
  · right
    obtain ⟨column, comparison, asks⟩ := asksSomething
    have isFilter := parameterFilter_of_asks asks parameter.2
    cases isOperand : operand entity column comparison parameter.2 with
    | ok value =>
        left
        rw [isOperand] at isFilter
        refine ⟨column, comparison, value, asks, isOperand, ?_, isFilter⟩
        rintro ⟨_, _, failure, asksOther, isRefused⟩
        obtain ⟨rfl, rfl⟩ := asks.unique asksOther
        cases isOperand.symm.trans isRefused
    | error failure =>
        right
        rw [isOperand, eq_invalidValue_of_operand isOperand] at isFilter
        exact ⟨column, ⟨column, comparison, failure, asks, isOperand⟩, isFilter⟩
  · left
    simp only [not_exists] at asksSomething
    refine ⟨parameterFilter_of_not_asks asksSomething parameter.2, ?_, ?_⟩
    · rintro ⟨column, comparison, _, asks, _⟩
      exact asksSomething column comparison asks
    · rintro ⟨column, comparison, asks, _⟩
      exact asksSomething column comparison asks

end OneParameter

/-! ## Lists of parameters -/

/-- Parameters are turned down if one of them is miswritten, and otherwise give filters. -/
theorem parameterFilters_cases (entity : Entity) (parameters : List Parameter) :
    ((∃ text column, parameterFilters entity parameters =
        .error (.rejected (.invalidValue text entity.name column))) ∧
      ∃ parameter ∈ parameters, Miswrites entity parameter) ∨
    ((∃ filters, parameterFilters entity parameters = .ok filters) ∧
      ∀ parameter ∈ parameters, ¬Miswrites entity parameter) := by
  induction parameters with
  | nil => exact .inr ⟨⟨[], rfl⟩, fun _ member => absurd member List.not_mem_nil⟩
  | cons first rest inductionHypothesis =>
      rw [parameterFilters_cons, List.forall_mem_cons, List.exists_mem_cons_iff]
      have isRead : (∃ column : Column, Miswrites entity first ∧ parameterFilter entity first =
          .error (.rejected (.invalidValue first.2 entity.name column.name))) ∨
          ∃ filter?, parameterFilter entity first = .ok filter? ∧ ¬Miswrites entity first := by
        obtain ⟨isNone, isWritten, _⟩ | ⟨_, _, _, _, _, isWritten, isSome⟩ | isRefused :=
          parameterFilter_cases entity first
        · exact .inr ⟨none, isNone, isWritten⟩
        · exact .inr ⟨_, isSome, isWritten⟩
        · exact .inl isRefused
      obtain ⟨column, miswrites, isRefused⟩ | ⟨filter?, isFilter, isWritten⟩ := isRead
      · left
        rw [isRefused]
        exact ⟨⟨first.2, column.name, rfl⟩, .inl miswrites⟩
      · rw [isFilter]
        obtain ⟨⟨text, column, isRefused⟩, miswritten⟩ | ⟨⟨filters, areFilters⟩, areWritten⟩ :=
          inductionHypothesis
        · left
          rw [isRefused]
          exact ⟨⟨text, column, rfl⟩, .inr miswritten⟩
        · right
          rw [areFilters]
          exact ⟨⟨filter?.toList ++ filters, rfl⟩, isWritten, areWritten⟩

/-- The filters of parameters fit every selection from the table, or one of the parameters orders
truth values. -/
theorem chain_fits {entity : Entity} {parameters : List Parameter} {filters : List Filter}
    (areFilters : parameterFilters entity parameters = .ok filters) {select : Select}
    (isOver : select.table = entity.table) :
    ((∀ parameter ∈ parameters, ¬OrdersTruth entity parameter) ∧
      ∃ applied, (Filter.chain filters).apply select = .ok applied) ∨
    ((∃ parameter ∈ parameters, OrdersTruth entity parameter) ∧
      (Filter.chain filters).apply select = .error (.foreign .invalidComparison)) := by
  induction parameters generalizing filters select with
  | nil =>
      cases areFilters
      exact .inl ⟨fun _ member => absurd member List.not_mem_nil, select, rfl⟩
  | cons first rest inductionHypothesis =>
      rw [parameterFilters_cons] at areFilters
      obtain ⟨filter?, isFilter, areFilters⟩ := Result.bind_eq_ok.1 areFilters
      obtain ⟨filters, restFilters, areFilters⟩ := Result.bind_eq_ok.1 areFilters
      cases areFilters
      rw [List.forall_mem_cons, List.exists_mem_cons_iff]
      obtain ⟨isNone, _, notOrders⟩ | ⟨column, comparison, value, asks, isOperand, _, isSome⟩ |
          ⟨column, _, isRefused⟩ := parameterFilter_cases entity first
      · cases isFilter.symm.trans isNone
        obtain ⟨areFine, fits⟩ | ⟨orders, failing⟩ := inductionHypothesis restFilters isOver
        · exact .inl ⟨⟨notOrders, areFine⟩, fits⟩
        · exact .inr ⟨.inr orders, failing⟩
      · cases isFilter.symm.trans isSome
        have orders_iff : OrdersTruth entity first ↔ Orders column comparison first.2 := by
          constructor
          · rintro ⟨_, _, asksOther, orders⟩
            obtain ⟨rfl, rfl⟩ := asks.unique asksOther
            exact orders
          · exact fun orders => ⟨column, comparison, asks, orders⟩
        rw [orders_iff]
        show (_ ∧ ∃ applied, ((comparing column comparison value).apply select >>=
            (Filter.chain filters).apply) = .ok applied) ∨
          (_ ∧ ((comparing column comparison value).apply select >>=
            (Filter.chain filters).apply) = _)
        obtain ⟨notOrders, condition, fits⟩ | ⟨orders, failing⟩ :=
          comparing_fits asks isOperand isOver
        · -- A narrowed selection is still one from the table.
          have stillOver : (select.restrict condition).table = entity.table := isOver
          rw [fits]
          obtain ⟨areFine, fits⟩ | ⟨orders, failing⟩ := inductionHypothesis restFilters stillOver
          · exact .inl ⟨⟨notOrders, areFine⟩, fits⟩
          · exact .inr ⟨.inr orders, failing⟩
        · rw [failing]
          exact .inr ⟨.inl orders, rfl⟩
      · cases isFilter.symm.trans isRefused

/-- Parameters are turned down as a bad request, or give filters that fit the selection of the
entity's rows, if and only if one of them is miswritten or none of them orders truth values. Otherwise
they give filters, and applying those fails. -/
theorem parameters_usable_iff (entity : Entity) (parameters : List Parameter) :
    (((∃ rejection, parameterFilters entity parameters = .error (.rejected rejection) ∧
          rejection.status = 400) ∨
        ∃ filters select, parameterFilters entity parameters = .ok filters ∧
          (Filter.chain filters).apply (Select.ofTable entity.table) = .ok select) ↔
      (∃ parameter ∈ parameters, Miswrites entity parameter) ∨
        ∀ parameter ∈ parameters, ¬OrdersTruth entity parameter) ∧
    ((∀ parameter ∈ parameters, ¬Miswrites entity parameter) →
      (∃ parameter ∈ parameters, OrdersTruth entity parameter) →
        ∃ filters, parameterFilters entity parameters = .ok filters ∧
          (Filter.chain filters).apply (Select.ofTable entity.table) =
            .error (.foreign .invalidComparison)) := by
  obtain ⟨⟨text, column, isRefused⟩, miswritten⟩ | ⟨⟨filters, areFilters⟩, areWritten⟩ :=
    parameterFilters_cases entity parameters
  · constructor
    · exact iff_of_true (.inl ⟨_, isRefused, rfl⟩) (.inl miswritten)
    · intro areWritten
      obtain ⟨parameter, member, miswrites⟩ := miswritten
      exact absurd miswrites (areWritten parameter member)
  · have notMiswritten : ¬∃ parameter ∈ parameters, Miswrites entity parameter := by
      rintro ⟨parameter, member, miswrites⟩
      exact areWritten parameter member miswrites
    have isOver : (Select.ofTable entity.table).table = entity.table := rfl
    obtain ⟨areFine, select, fits⟩ | ⟨orders, failing⟩ := chain_fits areFilters isOver
    · constructor
      · exact iff_of_true (.inr ⟨filters, select, areFilters, fits⟩) (.inr areFine)
      · rintro _ ⟨parameter, member, orders⟩
        exact absurd orders (areFine parameter member)
    · constructor
      · refine iff_of_false ?_ ?_
        · rintro (⟨_, isRefused, _⟩ | ⟨_, _, areSame, fits⟩)
          · cases areFilters.symm.trans isRefused
          · cases areFilters.symm.trans areSame
            cases failing.symm.trans fits
        · rintro (miswritten | areFine)
          · exact notMiswritten miswritten
          · obtain ⟨parameter, member, orders⟩ := orders
            exact areFine parameter member orders
      · intro _ _
        exact ⟨filters, areFilters, failing⟩

/-! ## Customers -/

namespace Customers

def code : Column := { name := "code", type := .string, primaryKey := true }

def vip : Column := { name := "vip", type := .boolean }

def table : Table where
  name := "customer"
  columns := [code, vip]

def customer : Entity where
  name := "customer"
  table := table
  key := code
  relations := []

/-- Customers can be asked for by being important: a text for a truth value is compared, and no
other text is accepted. -/
theorem vip_compared :
    ((∃ rejection, parameterFilters customer [("vip", "yes")] = .error (.rejected rejection) ∧
        rejection.status = 400) ∨
      ∃ filters select, parameterFilters customer [("vip", "yes")] = .ok filters ∧
        (Filter.chain filters).apply (Select.ofTable customer.table) = .ok select) ∧
    parameterFilters customer [("vip", "yes")] = .ok [comparing vip .equal (.bool true)] ∧
    parameterFilters customer [("vip__gt", "maybe")] =
      .error (.rejected (.invalidValue "maybe" "customer" "vip")) := by
  have notOrdered : ∀ parameter ∈ [("vip", "yes")], ¬OrdersTruth customer parameter := by
    intro parameter member
    rw [List.mem_singleton.1 member]
    rintro ⟨column, comparison, asks, _, isOrdering, _⟩
    have asksVip : Asks customer "vip" vip .equal := @Asks.plain customer vip rfl rfl (by decide)
    rw [← (asksVip.unique asks).2] at isOrdering
    exact isOrdering
  exact ⟨(parameters_usable_iff customer [("vip", "yes")]).1.2 (.inr notOrdered), rfl, rfl⟩

/-- An ordering of truth values is neither turned down nor fits the selection of customers. -/
theorem vip_ordered :
    parameterFilters customer [("vip__gt", "true")] = .ok [comparing vip .greater (.bool true)] ∧
    (Filter.chain [comparing vip .greater (.bool true)]).apply (Select.ofTable customer.table) =
      .error (.foreign .invalidComparison) ∧
    ¬((∃ rejection, parameterFilters customer [("vip__gt", "true")] = .error (.rejected rejection) ∧
        rejection.status = 400) ∨
      ∃ filters select, parameterFilters customer [("vip__gt", "true")] = .ok filters ∧
        (Filter.chain filters).apply (Select.ofTable customer.table) = .ok select) := by
  have isRead : parameterFilters customer [("vip__gt", "true")] =
      .ok [comparing vip .greater (.bool true)] := rfl
  refine ⟨isRead, rfl, ?_⟩
  rintro (⟨_, isRefused, _⟩ | ⟨_, _, areFilters, fits⟩)
  · cases isRead.symm.trans isRefused
  · cases isRead.symm.trans areFilters
    cases fits

end Customers

end RecordGraph.Http
