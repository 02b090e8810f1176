import RecordGraph.Proofs.Value.Same
import RecordGraph.Store.Evaluate

/-!
Contract: rows that are handed back read like rows that are selected.

Owns: `Value.Alike`, `Record.Alike`, and that a row shows the same both ways but for the form of
whole reals.
Does not own: which row is handed back.
-/

namespace RecordGraph

/-- Whether values are equal, or the same number in another form. -/
def Value.Alike (left right : Value) : Prop := left = right ∨ left.same right = true

/-- Whether records have the same names, in order, with values that are alike. -/
def Record.Alike (left right : Record) : Prop :=
  List.Forall₂ (fun field field' => field.1 = field'.1 ∧ field.2.Alike field'.2) left right

/-- What a stored row shows when it is read. -/
def StoredRow.read (table : Table) (row : StoredRow) : Record := readRow table (row.cellsOf table)

/-- What a stored row shows when an insert hands it back. -/
def StoredRow.handed (table : Table) (row : StoredRow) : Record :=
  readRow table fun ref => (row.cellsOf table ref).handedBack

theorem Value.Alike.refl (value : Value) : value.Alike value := .inl rfl

theorem Record.Alike.refl (record : Record) : Record.Alike record record :=
  List.forall₂_same.2 fun _ _ => ⟨rfl, .refl _⟩

namespace Binary64

/-- A double that equals an integer stands for it, and is zero only if the integer is. -/
theorem toInt?_eq_some {number : Binary64} {whole : Int} (isWhole : number.toInt? = some whole) :
    (Value.float number).scalar? = some (.number whole) ∧ (number.isZero = true ↔ whole = 0) := by
  cases number with
  | infinite negative => cases isWhole
  | nan => cases isWhole
  | finite negative significand exponent =>
      have isPositive : 0 < (quotient significand exponent).2 :=
        signedQuotient_pos negative significand exponent
      have isZero : (quotient significand exponent).1 = 0 ↔ significand = 0 := by
        unfold quotient
        split <;> simp
      unfold toInt? at isWhole
      change some (Value.Scalar.number (rational
        (if negative then -((quotient significand exponent).1 : Int)
          else (quotient significand exponent).1, (quotient significand exponent).2))) = _ ∧
        ((significand == 0) = true ↔ _)
      rw [beq_iff_eq, ← isZero]
      dsimp only at isWhole
      generalize (quotient significand exponent).1 = top at isWhole ⊢
      generalize (quotient significand exponent).2 = bottom at isWhole isPositive ⊢
      by_cases divides : top % bottom = 0
      · rw [if_pos divides] at isWhole
        obtain ⟨times, rfl⟩ := Nat.dvd_of_mod_eq_zero divides
        rw [Nat.mul_div_cancel_left _ isPositive, Option.some_inj] at isWhole
        subst isWhole
        have isNonzero : (bottom : ℚ) ≠ 0 := by exact_mod_cast isPositive.ne'
        constructor
        · congr 2
          unfold rational
          dsimp only
          rw [div_eq_iff isNonzero]
          cases negative with
          | false =>
              push_cast
              exact mul_comm _ _
          | true =>
              push_cast
              change -((bottom : ℚ) * times) = -times * bottom
              rw [neg_mul, mul_comm]
        · cases negative <;> simp [isPositive.ne']
      · rw [if_neg divides] at isWhole
        cases isWhole

end Binary64

/-- A cell gives the same value when it is handed back, but for the form of whole reals. -/
theorem Cell.alike_handedBack (type : ColumnType) (cell : Cell) :
    (cell.handedBack.toValue type).Alike (cell.toValue type) := by
  cases cell with
  | real number =>
      unfold Cell.handedBack
      dsimp only
      split
      · rename_i whole isWhole
        rcases Binary64.toInt?_eq_some isWhole with ⟨stands, isZero⟩
        split
        · have same : (Value.int whole).same (.float number) = true := by
            rw [Value.same_of_isKey rfl, Value.sameScalar_iff]
            exact ⟨_, rfl, stands⟩
          cases type with
          | boolean =>
              left
              change Value.bool (whole != 0) = Value.bool !number.isZero
              by_cases zero : whole = 0
              · rw [isZero.2 zero, zero]
                rfl
              · simp [zero, mt isZero.1 zero]
          | _ => exact .inr same
        · exact .refl _
      · exact .refl _
  | _ => exact .refl _

/-- A row that is handed back reads like the row that is selected. -/
theorem StoredRow.alike_handed (table : Table) (row : StoredRow) :
    (row.handed table).Alike (row.read table) := by
  unfold StoredRow.handed StoredRow.read readRow Record.Alike
  rw [List.forall₂_map_left_iff, List.forall₂_map_right_iff, List.forall₂_same]
  exact fun column _ => ⟨rfl, Cell.alike_handedBack _ _⟩

end RecordGraph
