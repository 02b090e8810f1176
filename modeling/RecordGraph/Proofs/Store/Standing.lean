import Mathlib.Data.String.Basic
import RecordGraph.Proofs.Value.Same
import RecordGraph.Store.Evaluate

/-!
Contract: equality of cells is equality of what they stand for.

Owns: what a cell stands for, that `Cell.sameAs` compares cells by it, and that no cell that is
stored or compared is a real that is not a number.
Does not own: the order of cells that differ.

The order of cells calls a real that is not a number equal to every number. Such a cell never
arises: a value that is not a number is stored as null.
-/

namespace RecordGraph

open RecordGraph.Sql RecordGraph.Text

namespace Binary64

theorem pack_ne_nan (negative : Bool) (significand : Nat) (exponent : Int) :
    pack negative significand exponent ≠ .nan := by
  unfold pack
  generalize (if significand = Nat.pow 2 53 then (Nat.pow 2 52, exponent + 1)
    else (significand, exponent)) = packed
  by_cases overflows : packed.2 > maxExponent
  · simp [overflows]
  · simp [overflows]

theorem ofQuotient_ne_nan (negative : Bool) (numerator denominator : Nat) :
    ofQuotient negative numerator denominator ≠ .nan := by
  unfold ofQuotient
  by_cases isZero : numerator = 0
  · rw [if_pos isZero]
    exact nofun
  · rw [if_neg isZero]
    exact pack_ne_nan _ _ _

theorem ofInt_ne_nan (number : Int) : ofInt number ≠ .nan :=
  ofQuotient_ne_nan _ _ _

theorem ofDecimal_ne_nan (negative : Bool) (digits : List Char) (exponent : Int) :
    ofDecimal negative digits exponent ≠ .nan := by
  unfold ofDecimal
  dsimp only
  split
  · exact ofQuotient_ne_nan _ _ _
  · split
    · exact nofun
    · split <;> exact ofQuotient_ne_nan _ _ _

theorem readMagnitude_ne_nan {negative : Bool} {chars : List Char} {number : Binary64}
    (reads : readMagnitude negative chars = some number) : number ≠ .nan := by
  unfold readMagnitude at reads
  dsimp only at reads
  rw [Option.ite_none_left_eq_some] at reads
  obtain ⟨exponent, _, same⟩ := Option.bind_eq_some_iff.1 reads.2
  rw [← Option.some.inj same]
  exact ofDecimal_ne_nan _ _ _

end Binary64

namespace Cell

/-- Whether a cell has a place in the order of cells. -/
def Ordered (cell : Cell) : Prop := cell ≠ .real .nan

theorem ordered_real {number : Binary64} (isNumber : number ≠ .nan) : (Cell.real number).Ordered :=
  fun impossible => isNumber (Cell.real.inj impossible)

theorem ordered_ofNumber (number : Int) : (ofNumber number).Ordered := by
  unfold ofNumber
  split
  · exact nofun
  · exact ordered_real (Binary64.ofInt_ne_nan number)

theorem ordered_wholeReal {number : Binary64} (isNumber : number ≠ .nan) :
    (wholeReal number).Ordered := by
  unfold wholeReal
  split
  · split
    · exact nofun
    · exact ordered_real isNumber
  · exact ordered_real isNumber

theorem ordered_numeral? {text : String} {cell : Cell} (reads : numeral? text = some cell) :
    cell.Ordered := by
  unfold numeral? at reads
  dsimp only at reads
  split at reads
  · rw [← Option.some.inj reads]
    exact ordered_ofNumber _
  · obtain ⟨number, isNumber, same⟩ := Option.bind_eq_some_iff.1 reads
    rw [← Option.some.inj same]
    exact ordered_real (Binary64.readMagnitude_ne_nan isNumber)

theorem Ordered.numeric {cell : Cell} (ordered : cell.Ordered) : cell.numeric.Ordered := by
  unfold Cell.numeric
  split
  · rename_i chars
    cases reads : numeral? chars with
    | none => exact ordered
    | some number => exact ordered_numeral? reads
  · exact ordered_ofNumber _
  · rename_i number
    cases number with
    | nan => exact nofun
    | infinite negative => exact nofun
    | finite negative significand exponent => exact ordered_real nofun
  · exact ordered

theorem Ordered.drawn {cell : Cell} (ordered : cell.Ordered) (affinity : Affinity) :
    (cell.drawn affinity).Ordered := by
  have isNumeric := ordered.numeric
  unfold Cell.drawn
  split
  · split
    · exact nofun
    · exact nofun
    · exact ordered
  · split
    · exact ordered_real (Binary64.ofInt_ne_nan _)
    · rename_i number isReal
      rw [isReal] at isNumeric
      split
      · exact ordered_real nofun
      · exact isNumeric
    · exact isNumeric
  all_goals
    split
    · rename_i number isReal
      rw [isReal] at isNumeric
      exact ordered_wholeReal fun isNan => isNumeric (congrArg Cell.real isNan)
    · exact isNumeric

theorem ordered_ofValue (value : Value) : (ofValue value).Ordered := by
  cases value with
  | float number => cases number <;> simp [ofValue, Ordered]
  | _ => exact nofun

theorem ordered_ofParameter (type : ColumnType) (value : Value) :
    (ofParameter type value).Ordered := by
  unfold ofParameter
  split
  · exact nofun
  · exact ordered_ofValue _

theorem ordered_stored (type : ColumnType) (value : Value) : (stored type value).Ordered :=
  (ordered_ofParameter type value).drawn _

theorem ordered_ofDocument (chars : String) : (ofDocument chars).Ordered := by
  unfold ofDocument
  split
  · exact nofun
  · exact nofun

theorem ordered_ofLiteral (type : ColumnType) (literal : Literal) :
    (ofLiteral type literal).Ordered := by
  cases literal with
  | null => exact nofun
  | integer number => exact ordered_ofNumber number
  | real number => exact ordered_ofValue (.float number)
  | text chars =>
      rw [ofLiteral]
      split
      · exact ordered_ofDocument chars
      · exact nofun

theorem ordered_preset (column : Column) : column.preset.Ordered := by
  unfold Column.preset
  split
  · exact nofun
  · exact (ordered_ofLiteral _ _).drawn _

theorem preset_of_primaryKey {column : Column} (isPrimary : column.primaryKey = true) :
    column.preset = .null :=
  if_pos isPrimary

theorem Ordered.operand {cell : Cell} (ordered : cell.Ordered) (type : ColumnType) :
    (cell.operand type).Ordered := by
  unfold Cell.operand
  split
  · exact ordered.drawn _
  · exact ordered.numeric

/-! ## What cells stand for -/

/-- What a cell stands for. Null stands for nothing, a document for its text. -/
def standing? : Cell → Option Value.Scalar
  | .null => none
  | .int number => Value.scalar? (.int number)
  | .real number => Value.scalar? (.float number)
  | .text chars => some (.text chars)
  | .document content => some (.text content.toJson)

theorem standing?_eq_none_iff {cell : Cell} (ordered : cell.Ordered) :
    cell.standing? = none ↔ cell = .null := by
  cases cell with
  | real number =>
      cases number with
      | nan => exact absurd rfl ordered
      | _ => simp [standing?, Value.scalar?]
  | _ => simp [standing?, Value.scalar?]

theorem beq_null_iff (cell : Cell) : (cell == .null) = true ↔ cell = .null := by
  cases cell with
  | null => exact iff_of_true rfl rfl
  | _ => exact iff_of_false Bool.false_ne_true nofun

theorem compareNumbers_int_iff (left right : Int) :
    compareNumbers (.int left) (.int right) = .eq ↔
      (Cell.int left).standing? = (Cell.int right).standing? := by
  simp [compareNumbers, standing?, Value.scalar?]

theorem compareNumbers_real_int_iff {left : Binary64} (isNumber : left ≠ .nan) (right : Int) :
    compareNumbers (.real left) (.int right) = .eq ↔
      (Cell.real left).standing? = (Cell.int right).standing? := by
  have same := Value.compareInt?_eq_iff left right
  have defined : ∃ ordering, left.compareInt? right = some ordering := by
    cases left with
    | nan => exact absurd rfl isNumber
    | infinite negative => exact ⟨_, rfl⟩
    | finite negative significand exponent => exact ⟨_, rfl⟩
  obtain ⟨ordering, isOrdering⟩ := defined
  rw [isOrdering, Option.some_inj] at same
  rw [compareNumbers, isOrdering, Option.getD_some, same]
  rfl

theorem compareNumbers_int_real_iff (left : Int) {right : Binary64} (isNumber : right ≠ .nan) :
    compareNumbers (.int left) (.real right) = .eq ↔
      (Cell.int left).standing? = (Cell.real right).standing? := by
  have turned := compareNumbers_real_int_iff isNumber left
  rw [compareNumbers] at turned
  rw [compareNumbers, Ordering.swap_eq_eq, turned, eq_comm]

theorem compareNumbers_real_iff {left right : Binary64} (leftNumber : left ≠ .nan)
    (rightNumber : right ≠ .nan) :
    compareNumbers (.real left) (.real right) = .eq ↔
      (Cell.real left).standing? = (Cell.real right).standing? := by
  have same := Value.compare?_eq_iff left right
  have defined : ∃ ordering, left.compare? right = some ordering := by
    cases left with
    | nan => exact absurd rfl leftNumber
    | _ =>
        cases right with
        | nan => exact absurd rfl rightNumber
        | _ => exact ⟨_, rfl⟩
  obtain ⟨ordering, isOrdering⟩ := defined
  have stands : ∃ scalar, Value.scalar? (.float left) = some scalar := by
    cases left with
    | nan => exact absurd rfl leftNumber
    | _ => exact ⟨_, rfl⟩
  obtain ⟨scalar, isScalar⟩ := stands
  rw [isOrdering, Option.some_inj] at same
  rw [compareNumbers, isOrdering, Option.getD_some, same, standing?, standing?, isScalar]
  constructor
  · rintro ⟨other, isOther, isRight⟩
    rw [isRight, isOther]
  · intro isRight
    exact ⟨scalar, rfl, isRight.symm⟩

/-- Cells are equal in the order if their ranks are, and their texts or numbers. -/
theorem sameAs_iff_ranks (left right : Cell) :
    left.sameAs right = true ↔ left.rank = right.rank ∧
      if left.rank = 2 then left.toText = right.toText
      else compareNumbers left right = .eq := by
  unfold sameAs order
  by_cases sameRank : left.rank = right.rank
  · have isEq : compare left.rank right.rank = .eq := compare_eq_iff_eq.2 sameRank
    rw [isEq, beq_iff_eq, and_iff_right sameRank]
    by_cases areTexts : left.rank = 2
    · simp only [if_pos areTexts]
      exact compare_eq_iff_eq
    · simp only [if_neg areTexts]
  · have notEq : compare left.rank right.rank ≠ .eq := fun isEq =>
      sameRank (compare_eq_iff_eq.1 isEq)
    refine iff_of_false ?_ fun both => sameRank both.1
    cases ordering : compare left.rank right.rank with
    | eq => exact absurd ordering notEq
    | lt => exact Bool.false_ne_true
    | gt => exact Bool.false_ne_true

/-- Cells in the order are equal there if they stand for the same. -/
theorem sameAs_iff {left right : Cell} (leftOrdered : left.Ordered) (rightOrdered : right.Ordered) :
    left.sameAs right = true ↔ left.standing? = right.standing? := by
  rw [sameAs_iff_ranks]
  cases left with
  | null =>
      cases right with
      | null => simp [rank, compareNumbers]
      | real number =>
          have stands : (Cell.real number).standing? ≠ none := fun isNone =>
            nomatch (standing?_eq_none_iff rightOrdered).1 isNone
          exact iff_of_false (by simp [rank]) fun same => stands same.symm
      | _ => simp [rank, standing?, Value.scalar?]
  | int number =>
      cases right with
      | int number' => simp [rank, compareNumbers_int_iff]
      | real number' =>
          have isNumber : number' ≠ .nan := fun isNan => rightOrdered (congrArg Cell.real isNan)
          simp [rank, compareNumbers_int_real_iff number isNumber]
      | _ => simp [rank, standing?, Value.scalar?]
  | real number =>
      have isNumber : number ≠ .nan := fun isNan => leftOrdered (congrArg Cell.real isNan)
      cases right with
      | null =>
          have stands : (Cell.real number).standing? ≠ none := fun isNone =>
            nomatch (standing?_eq_none_iff leftOrdered).1 isNone
          exact iff_of_false (by simp [rank]) stands
      | int number' => simp [rank, compareNumbers_real_int_iff isNumber]
      | real number' =>
          have isNumber' : number' ≠ .nan := fun isNan => rightOrdered (congrArg Cell.real isNan)
          simp [rank, compareNumbers_real_iff isNumber isNumber']
      | text chars => cases number <;> simp [rank, standing?, Value.scalar?]
      | document content => cases number <;> simp [rank, standing?, Value.scalar?]
  | text chars =>
      cases right with
      | real number => cases number <;> simp [rank, standing?, Value.scalar?]
      | _ => simp [rank, standing?, toText, Value.scalar?]
  | document content =>
      cases right with
      | real number => cases number <;> simp [rank, standing?, Value.scalar?]
      | _ => simp [rank, standing?, toText, Value.scalar?]

end Cell

end RecordGraph
