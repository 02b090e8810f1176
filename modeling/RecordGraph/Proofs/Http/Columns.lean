import RecordGraph.Http.Parameter
import RecordGraph.Proofs.Schema.Reachable

/-!
Contract: which comparisons the names of query parameters ask for.

Owns: where the name of a parameter is split, `Asks` and `Denotes`, and the filters of a parameter.
Does not own: what filters do to selections.

The name of a parameter is split at its first double underscore. So a column is never read from a
name in which a double underscore begins before the column's own name has ended.
-/

namespace RecordGraph.Http

open RecordGraph.Sql

/-! ## Splitting -/

/-- Whether there is a double underscore among characters. -/
def HasMark (chars : List Char) : Prop := ['_', '_'] <:+: chars

instance (chars : List Char) : Decidable (HasMark chars) :=
  inferInstanceAs (Decidable (['_', '_'] <:+: chars))

theorem splitOperator_of_unmarked {chars : List Char} (isUnmarked : ¬HasMark chars) :
    splitOperator chars = (chars, []) := by
  fun_induction splitOperator chars with
  | case1 rest => exact absurd (List.prefix_append ['_', '_'] rest).isInfix isUnmarked
  | case2 c rest notMark before after isSplit inductionHypothesis =>
      have restUnmarked : ¬HasMark rest := mt List.infix_cons isUnmarked
      cases isSplit.symm.trans (inductionHypothesis restUnmarked)
      rfl
  | case3 => rfl

/-- Characters that begin with no double underscore keep their first one. -/
theorem splitOperator_cons {c : Char} {rest : List Char} (isPlain : ¬['_', '_'] <+: c :: rest) :
    splitOperator (c :: rest) = (c :: (splitOperator rest).1, (splitOperator rest).2) := by
  rw [splitOperator]
  rintro after rfl rfl
  exact isPlain (List.prefix_append ['_', '_'] after)

/-- What stands before a double underscore is split off if no other one begins in it. -/
theorem splitOperator_append {name : List Char} (isUnmarked : ¬HasMark (name ++ ['_']))
    (word : List Char) : splitOperator (name ++ '_' :: '_' :: word) = (name, word) := by
  induction name with
  | nil => rfl
  | cons c rest inductionHypothesis =>
      -- A double underscore at the front would end in the name or right behind it.
      have isPlain : ¬['_', '_'] <+: c :: (rest ++ '_' :: '_' :: word) := by
        intro begins
        have isShorter : c :: (rest ++ ['_']) <+: c :: (rest ++ '_' :: '_' :: word) :=
          List.prefix_append_right_inj (c :: rest) |>.2 (List.prefix_append ['_'] _)
        apply isUnmarked
        exact (List.prefix_of_prefix_length_le begins isShorter (by simp)).isInfix
      have restUnmarked : ¬HasMark (rest ++ ['_']) := mt List.infix_cons isUnmarked
      show splitOperator (c :: (rest ++ '_' :: '_' :: word)) = (c :: rest, word)
      rw [splitOperator_cons isPlain, inductionHypothesis restUnmarked]

/-- Characters have no double underscore, or a first one. -/
theorem unmarked_or_split (chars : List Char) :
    ¬HasMark chars ∨
      ∃ name word, chars = name ++ '_' :: '_' :: word ∧ ¬HasMark (name ++ ['_']) := by
  induction chars with
  | nil => exact .inl (by decide)
  | cons c rest inductionHypothesis =>
      by_cases begins : ['_', '_'] <+: c :: rest
      · obtain ⟨word, isSplit⟩ := begins
        exact .inr ⟨[], word, isSplit.symm, by decide⟩
      · obtain restUnmarked | ⟨name, word, rfl, isUnmarked⟩ := inductionHypothesis
        · exact .inl fun isMarked => (List.infix_cons_iff.1 isMarked).elim begins restUnmarked
        · refine .inr ⟨c :: name, word, rfl, fun isMarked => ?_⟩
          apply (List.infix_cons_iff.1 isMarked).elim _ isUnmarked
          intro earlier
          apply begins
          exact earlier.trans
            (List.prefix_append_right_inj (c :: name) |>.2 (List.prefix_append ['_'] _))

/-! ## What a parameter asks for -/

/-- The comparisons that names of parameters stand for: a column alone is compared for equality, one
with an operator behind it by that operator. -/
inductive Denotes (entity : Entity) : String → Column → Comparison → Prop where
  | plain {column : Column} (isColumn : entity.table.column? column.name = some column)
      (isFree : isReserved column.name = false) : Denotes entity column.name column .equal
  | suffixed {column : Column} {word : String} {comparison : Comparison}
      (isColumn : entity.table.column? column.name = some column) (isNamed : word ≠ "")
      (isOperator : operator? word = some comparison) :
      Denotes entity (column.name ++ "__" ++ word) column comparison

/-- The comparisons that are read from names of parameters: those of a name that ends at the first
double underscore. The operator behind it may be missing. -/
inductive Asks (entity : Entity) : String → Column → Comparison → Prop where
  | plain {column : Column} (isColumn : entity.table.column? column.name = some column)
      (isFree : isReserved column.name = false) (isWhole : ¬HasMark column.name.toList) :
      Asks entity column.name column .equal
  | suffixed {column : Column} {word : String} {comparison : Comparison}
      (isColumn : entity.table.column? column.name = some column)
      (isOperator : operator? word = some comparison)
      (isWhole : ¬HasMark (column.name.toList ++ ['_'])) :
      Asks entity (column.name ++ "__" ++ word) column comparison

/-- The filter that a parameter asks for, of a value. -/
def comparing (column : Column) (comparison : Comparison) (value : Value) : Filter :=
  .compare column.name (.compare comparison) value true

section Parameters

variable {entity : Entity} {key : String} {column : Column} {comparison : Comparison}

theorem toList_suffixed (name word : String) :
    (name ++ "__" ++ word).toList = name.toList ++ '_' :: '_' :: word.toList := by
  rw [String.toList_append, String.toList_append, List.append_assoc]
  rfl

/-- A name is shorter than itself with an operator behind it. -/
theorem suffixed_ne (name word : String) : name ++ "__" ++ word ≠ name := by
  intro same
  have isLength := congrArg String.length same
  simp only [String.length_append] at isLength
  have isMark : "__".length = 2 := rfl
  omega

theorem hasMark_suffixed (name word : String) : HasMark (name ++ "__" ++ word).toList := by
  rw [toList_suffixed]
  exact ⟨name.toList, word.toList, by simp⟩

/-- A name with a double underscore is not reserved. -/
theorem isReserved_suffixed (name word : String) : isReserved (name ++ "__" ++ word) = false := by
  have hasMark := hasMark_suffixed name word
  unfold isReserved
  rw [Bool.or_eq_false_iff, beq_eq_false_iff_ne, beq_eq_false_iff_ne]
  constructor
  · intro isEager
    rw [isEager] at hasMark
    exact absurd hasMark (by decide)
  · intro isOrder
    rw [isOrder] at hasMark
    exact absurd hasMark (by decide)

theorem split_of_asks (asks : Asks entity key column comparison) :
    isReserved key = false ∧
      operator? (String.ofList (splitOperator key.toList).2) = some comparison ∧
      entity.table.column? (String.ofList (splitOperator key.toList).1) = some column := by
  cases asks with
  | plain isColumn isFree isWhole =>
      rw [splitOperator_of_unmarked isWhole, String.ofList_toList]
      exact ⟨isFree, rfl, isColumn⟩
  | suffixed isColumn isOperator isWhole =>
      rw [toList_suffixed, splitOperator_append isWhole, String.ofList_toList, String.ofList_toList]
      exact ⟨isReserved_suffixed _ _, isOperator, isColumn⟩

/-- What is read from a name that is not reserved is asked for. -/
theorem asks_of_split (isFree : isReserved key = false) {name word : List Char}
    (isSplit : splitOperator key.toList = (name, word))
    (isOperator : operator? (String.ofList word) = some comparison)
    (isFound : entity.table.column? (String.ofList name) = some column) :
    Asks entity key column comparison := by
  have isName : column.name = String.ofList name := Table.name_of_column? isFound
  have isColumn : entity.table.column? column.name = some column := by rw [isName, isFound]
  obtain isWhole | ⟨before, after, isMarked, isWhole⟩ := unmarked_or_split key.toList
  · cases isSplit.symm.trans (splitOperator_of_unmarked isWhole)
    cases isOperator
    rw [String.ofList_toList] at isName
    subst isName
    exact .plain isColumn isFree isWhole
  · rw [isMarked] at isSplit
    cases isSplit.symm.trans (splitOperator_append isWhole after)
    have isKey : key = column.name ++ "__" ++ String.ofList word := by
      rw [← String.toList_inj, toList_suffixed, isName, isMarked, String.toList_ofList,
        String.toList_ofList]
    have nameWhole : ¬HasMark (column.name.toList ++ ['_']) := by
      rwa [isName, String.toList_ofList]
    rw [isKey]
    exact .suffixed isColumn isOperator nameWhole

theorem Asks.isColumn (asks : Asks entity key column comparison) :
    entity.table.column? column.name = some column := by
  cases asks with
  | plain isColumn => exact isColumn
  | suffixed isColumn => exact isColumn

/-- A name asks for one comparison at most. -/
theorem Asks.unique (asks : Asks entity key column comparison) {otherColumn : Column}
    {otherComparison : Comparison} (asksOther : Asks entity key otherColumn otherComparison) :
    column = otherColumn ∧ comparison = otherComparison := by
  obtain ⟨_, isOperator, isColumn⟩ := split_of_asks asks
  obtain ⟨_, isOtherOperator, isOtherColumn⟩ := split_of_asks asksOther
  rw [isOperator] at isOtherOperator
  rw [isColumn] at isOtherColumn
  exact ⟨Option.some.inj isOtherColumn, Option.some.inj isOtherOperator⟩

/-- What a parameter asks for is its filter, if its text is an operand. -/
theorem parameterFilter_of_asks (asks : Asks entity key column comparison) (text : String) :
    parameterFilter entity (key, text) =
      (operand entity column comparison text).map fun value =>
        some (comparing column comparison value) := by
  obtain ⟨isFree, isOperator, isColumn⟩ := split_of_asks asks
  unfold parameterFilter
  dsimp only
  rw [isFree, isOperator, isColumn]
  show (operand entity column comparison text >>= _) = _
  cases operand entity column comparison text <;> rfl

/-- A parameter that asks for nothing has no filter. -/
theorem parameterFilter_of_not_asks (asksNothing : ∀ column comparison,
    ¬Asks entity key column comparison) (text : String) :
    parameterFilter entity (key, text) = .ok none := by
  unfold parameterFilter
  dsimp only
  split
  · rfl
  · rename_i notReserved
    have isFree : isReserved key = false := Bool.eq_false_iff.2 notReserved
    split
    · rename_i comparison column isOperator isFound
      exact absurd (asks_of_split isFree rfl isOperator isFound) (asksNothing column comparison)
    · rfl

/-! ## The filters of parameters -/

theorem parameterFilters_cons (parameter : Parameter) (parameters : List Parameter) :
    parameterFilters entity (parameter :: parameters) = do
      let filter? ← parameterFilter entity parameter
      let filters ← parameterFilters entity parameters
      return filter?.toList ++ filters := by
  unfold parameterFilters
  rw [List.mapM_cons]
  cases parameterFilter entity parameter with
  | error failure => rfl
  | ok first =>
      cases parameters.mapM (parameterFilter entity) with
      | error failure => rfl
      | ok others => cases first <;> rfl

/-- A parameter without a filter may as well be absent. -/
theorem parameterFilters_of_none {parameter : Parameter}
    (isNone : parameterFilter entity parameter = .ok none) (before after : List Parameter) :
    parameterFilters entity (before ++ parameter :: after) =
      parameterFilters entity (before ++ after) := by
  induction before with
  | nil =>
      show parameterFilters entity (parameter :: after) = parameterFilters entity after
      rw [parameterFilters_cons, isNone]
      cases parameterFilters entity after <;> rfl
  | cons first rest inductionHypothesis =>
      rw [List.cons_append, parameterFilters_cons, inductionHypothesis, List.cons_append,
        parameterFilters_cons]

theorem parameterFilters_single (parameter : Parameter) :
    parameterFilters entity [parameter] = (parameterFilter entity parameter).map Option.toList := by
  rw [parameterFilters_cons]
  cases parameterFilter entity parameter with
  | error failure => rfl
  | ok filter => cases filter <;> rfl

/-- A parameter that asks for a comparison has no other filter. -/
theorem parameterFilters_of_asks (asks : Asks entity key column comparison) {text : String}
    {value : Value} (isOperand : operand entity column comparison text = .ok value) :
    parameterFilters entity [(key, text)] = .ok [comparing column comparison value] := by
  rw [parameterFilters_single, parameterFilter_of_asks asks, isOperand]
  rfl

/-- A single filter is one that the parameter asks for. -/
theorem asks_of_parameterFilters {text : String} {filter : Filter}
    (isOnly : parameterFilters entity [(key, text)] = .ok [filter]) :
    ∃ column comparison value, Asks entity key column comparison ∧
      filter = comparing column comparison value := by
  by_cases asksSomething : ∃ column comparison, Asks entity key column comparison
  · obtain ⟨column, comparison, asks⟩ := asksSomething
    rw [parameterFilters_single, parameterFilter_of_asks asks] at isOnly
    cases isOperand : operand entity column comparison text with
    | error failure =>
        rw [isOperand] at isOnly
        cases isOnly
    | ok value =>
        rw [isOperand] at isOnly
        cases isOnly
        exact ⟨column, comparison, value, asks, rfl⟩
  · simp only [not_exists] at asksSomething
    rw [parameterFilters_single, parameterFilter_of_not_asks asksSomething] at isOnly
    cases isOnly

end Parameters

/-- Comparison by an operator's word is the one that a parameter with that word stands for. -/
theorem compareBy_of_operator? {word : String} {comparison : Comparison} (isNamed : word ≠ "")
    (isOperator : operator? word = some comparison) (column : Column) (value : Value) :
    Filter.compareBy (.text column.name) (.text word) value true =
      .ok (comparing column comparison value) := by
  unfold operator? at isOperator
  split at isOperator <;> cases isOperator <;> first | exact absurd rfl isNamed | rfl

/-- Whether a parameter gives one filter, which compares a column by an operator's word with the
operand that its text is read as. -/
def GivesOnly (entity : Entity) (parameter : Parameter) (column : Column) (word : String)
    (comparison : Comparison) : Prop :=
  ∃ value filter, operand entity column comparison parameter.2 = .ok value ∧
    Filter.compareBy (.text column.name) (.text word) value true = .ok filter ∧
    parameterFilters entity [parameter] = .ok [filter]

section Names

variable {entity : Entity} {column : Column} {comparison : Comparison}
variable {text : String} {value : Value}

theorem givesOnly_of_asks {key word : String} (asks : Asks entity key column comparison)
    (isNamed : word ≠ "") (isOperator : operator? word = some comparison)
    (isOperand : operand entity column comparison text = .ok value) :
    GivesOnly entity (key, text) column word comparison :=
  ⟨value, comparing column comparison value, isOperand,
    compareBy_of_operator? isNamed isOperator column value,
    parameterFilters_of_asks asks isOperand⟩

/-- The only filter on a column is one that the parameter asks for of that column. -/
theorem asks_of_givesOnly {key word : String} (isNamed : word ≠ "")
    (isOperator : operator? word = some comparison)
    (isOnly : GivesOnly entity (key, text) column word comparison) :
    ∃ asked, asked.name = column.name ∧ ∃ comparison, Asks entity key asked comparison := by
  obtain ⟨value, filter, _, isFilter, isOnly⟩ := isOnly
  obtain ⟨asked, comparison, value, asks, rfl⟩ := asks_of_parameterFilters isOnly
  rw [compareBy_of_operator? isNamed isOperator] at isFilter
  have isName : column.name = asked.name := (Filter.compare.inj (Except.ok.inj isFilter)).1
  exact ⟨asked, isName.symm, comparison, asks⟩

/-- A column's own name asks for it if and only if no double underscore is in the name. -/
theorem givesOnly_name_iff (isColumn : entity.table.column? column.name = some column)
    (isFree : isReserved column.name = false)
    (isOperand : operand entity column .equal text = .ok value) :
    GivesOnly entity (column.name, text) column "eq" .equal ↔ ¬HasMark column.name.toList := by
  constructor
  · intro isOnly
    obtain ⟨asked, sameName, comparison, asks⟩ := asks_of_givesOnly (by decide) rfl isOnly
    generalize isKey : column.name = key at asks
    cases asks with
    | plain _ _ isWhole => exact isWhole
    | suffixed =>
        rw [sameName] at isKey
        exact absurd isKey.symm (suffixed_ne _ _)
  · intro isWhole
    exact givesOnly_of_asks (.plain isColumn isFree isWhole) (by decide) rfl isOperand

/-- A column's name with an operator asks for it by that operator if and only if no double
underscore begins in the name. -/
theorem givesOnly_suffixed_iff {word : String}
    (isColumn : entity.table.column? column.name = some column) (isNamed : word ≠ "")
    (isOperator : operator? word = some comparison)
    (isOperand : operand entity column comparison text = .ok value) :
    GivesOnly entity (column.name ++ "__" ++ word, text) column word comparison ↔
      ¬HasMark (column.name.toList ++ ['_']) := by
  constructor
  · intro isOnly
    obtain ⟨asked, sameName, comparison, asks⟩ := asks_of_givesOnly isNamed isOperator isOnly
    generalize isKey : column.name ++ "__" ++ word = key at asks
    cases asks with
    | plain =>
        rw [sameName] at isKey
        exact absurd isKey (suffixed_ne _ _)
    | suffixed _ _ isWhole => rwa [← sameName]
  · intro isWhole
    exact givesOnly_of_asks (.suffixed isColumn isOperator isWhole) isNamed isOperator isOperand

/-- A parameter that denotes no column leaves the filters as they are, unless it is the name of a
column with a double underscore and no operator behind it. -/
theorem silent_iff {key : String}
    (denotesNothing : ∀ column comparison, ¬Denotes entity key column comparison) (text : String) :
    (∀ before after, parameterFilters entity (before ++ (key, text) :: after) =
        parameterFilters entity (before ++ after)) ↔
      ∀ column, entity.table.column? column.name = some column → key = column.name ++ "__" →
        HasMark (column.name.toList ++ ['_']) := by
  constructor
  · intro isSilent column isColumn isKey
    apply Decidable.byContradiction
    intro isWhole
    have asks : Asks entity (column.name ++ "__" ++ "") column .equal :=
      .suffixed isColumn rfl isWhole
    rw [String.append_empty, ← isKey] at asks
    have isEmpty : parameterFilters entity [(key, text)] = .ok [] := isSilent [] []
    rw [parameterFilters_single, parameterFilter_of_asks asks] at isEmpty
    cases isOperand : operand entity column .equal text with
    | error failure =>
        rw [isOperand] at isEmpty
        cases isEmpty
    | ok value =>
        rw [isOperand] at isEmpty
        cases isEmpty
  · intro isMarked
    apply parameterFilters_of_none
    apply parameterFilter_of_not_asks
    intro column comparison asks
    cases asks with
    | plain isColumn isFree _ => exact denotesNothing column .equal (.plain isColumn isFree)
    | @suffixed _ word _ isColumn isOperator isWhole =>
        by_cases isNamed : word = ""
        · rw [isNamed, String.append_empty] at isMarked
          exact isWhole (isMarked column isColumn rfl)
        · exact denotesNothing column comparison (.suffixed isColumn isNamed isOperator)

end Names

/-- Every text that a column can be compared with gives exactly the filter by equality under the
column's name, if and only if the name has no double underscore, and exactly the filter by an
operator under the name with that operator, if and only if no double underscore begins in the name.
Every other parameter gives no filter, if and only if it is not such a name with a double underscore
and nothing behind it. -/
theorem columns_filtered_iff (entity : Entity) :
    (∀ column text value, entity.table.column? column.name = some column →
      isReserved column.name = false → operand entity column .equal text = .ok value →
      (GivesOnly entity (column.name, text) column "eq" .equal ↔ ¬HasMark column.name.toList)) ∧
    (∀ column word comparison text value, entity.table.column? column.name = some column →
      word ≠ "" → operator? word = some comparison →
      operand entity column comparison text = .ok value →
      (GivesOnly entity (column.name ++ "__" ++ word, text) column word comparison ↔
        ¬HasMark (column.name.toList ++ ['_']))) ∧
    (∀ key text, (∀ column comparison, ¬Denotes entity key column comparison) →
      ((∀ before after, parameterFilters entity (before ++ (key, text) :: after) =
          parameterFilters entity (before ++ after)) ↔
        ∀ column, entity.table.column? column.name = some column → key = column.name ++ "__" →
          HasMark (column.name.toList ++ ['_']))) :=
  ⟨fun _ _ _ isColumn isFree isOperand => givesOnly_name_iff isColumn isFree isOperand,
    fun _ _ _ _ _ isColumn isNamed isOperator isOperand =>
      givesOnly_suffixed_iff isColumn isNamed isOperator isOperand,
    fun _ text denotesNothing => silent_iff denotesNothing text⟩

/-! ## A gauge -/

namespace Gauges

def level : Column := { name := "level", type := .integer, primaryKey := true }

/-- A column with a double underscore in its name. -/
def slope : Column := { name := "x__y", type := .integer }

def table : Table where
  name := "gauge"
  columns := [level, slope]

def gauge : Entity where
  name := "gauge"
  table := table
  key := level
  relations := []

theorem registered :
    ∃ registry : Registry, registry.Reachable ∧ registry.entity "gauge" = .ok gauge := by
  have started : Registry.Reachable { schema := [table] } := .start _
  have isRegistered : Registry.register { schema := [table] } "gauge" [] =
      .ok { schema := [table], entities := [gauge] } := rfl
  have isFrozen : Registry.freeze { schema := [table], entities := [gauge] } =
      .ok { schema := [table], entities := [gauge], frozen := true } := rfl
  exact ⟨_, .freeze (.register started isRegistered) isFrozen, rfl⟩

/-- The level is compared for equality and by an operator, and what is no column with nothing. -/
theorem level_filtered :
    GivesOnly gauge ("level", "1") level "eq" .equal ∧
      GivesOnly gauge ("level__gte", "1") level "gte" .greaterEqual ∧
      parameterFilters gauge [("depth", "1")] = .ok [] := by
  obtain ⟨names, suffixes, silence⟩ := columns_filtered_iff gauge
  have notSuffixed : ∀ name word : String, name ++ "__" ++ word ≠ "depth" := by
    intro name word isDepth
    have hasMark := hasMark_suffixed name word
    rw [isDepth] at hasMark
    exact absurd hasMark (by decide)
  have denotesNothing : ∀ column comparison, ¬Denotes gauge "depth" column comparison := by
    intro column comparison denotes
    generalize isDepth : "depth" = key at denotes
    cases denotes with
    | plain isColumn =>
        rw [← isDepth] at isColumn
        cases isColumn
    | suffixed => exact notSuffixed _ _ isDepth.symm
  refine ⟨?_, ?_, ?_⟩
  · exact (names level "1" (.int 1) rfl rfl rfl).2 (by decide)
  · exact (suffixes level "gte" .greaterEqual "1" (.int 1) rfl (by decide) rfl rfl).2 (by decide)
  · refine (silence "depth" "1" denotesNothing).2 (fun column _ isDepth => ?_) [] []
    rw [← String.append_empty (s := column.name ++ "__")] at isDepth
    exact absurd isDepth.symm (notSuffixed _ _)

/-- The slope is a column of a registered entity, and no parameter with its name gives a filter on
it. The name of the level with a double underscore does give one. -/
theorem slope_not_filtered :
    (∃ registry : Registry, registry.Reachable ∧ registry.entity "gauge" = .ok gauge) ∧
      gauge.table.column? slope.name = some slope ∧ isReserved slope.name = false ∧
      operand gauge slope .equal "1" = .ok (.int 1) ∧
      parameterFilters gauge [("x__y", "1")] = .ok [] ∧
      ¬GivesOnly gauge ("x__y", "1") slope "eq" .equal ∧
      parameterFilters gauge [("x__y__gt", "1")] = .ok [] ∧
      parameterFilters gauge [("level__", "1")] = .ok [comparing level .equal (.int 1)] := by
  refine ⟨registered, rfl, rfl, rfl, rfl, ?_, rfl, rfl⟩
  rintro ⟨_, _, _, _, isOnly⟩
  cases isOnly

end Gauges

end RecordGraph.Http
