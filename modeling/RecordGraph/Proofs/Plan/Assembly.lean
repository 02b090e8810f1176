import Mathlib.Tactic.Choose
import RecordGraph.Plan.Insert
import RecordGraph.Proofs.Value.Record

/-!
Contract: the records that a plan hands out after its rows were inserted.

Owns: `InsertPlan.Shows`, and that every record that is handed out shows the row of an operation,
with records of its attachments nested in.
Does not own: which attachments a plan has.

Attachments replace fields of rows one after another. A nested record may itself have been nested
into before, so the records that are handed out are described by an inductive and not by one pass.
-/

namespace RecordGraph

/-- The records that a value holds: itself, or those among its items. -/
def Value.heldRecords : Value → List Record
  | .object fields => [fields]
  | .list items => items.filterMap fun
      | .object fields => some fields
      | _ => none
  | _ => []

/-- The value that holds records. -/
def Value.ofRecords (many : Bool) (records : List Record) : Value :=
  if many then .list (records.map .object)
  else
    match records with
    | [] => .null
    | record :: _ => .object record

theorem Value.heldRecords_list (records : List Record) :
    (Value.list (records.map .object)).heldRecords = records := by
  change List.filterMap _ (records.map object) = records
  rw [List.filterMap_map]
  exact List.filterMap_some

theorem Value.mem_heldRecords_ofRecords {many : Bool} {records : List Record} {record : Record}
    (member : record ∈ (ofRecords many records).heldRecords) : record ∈ records := by
  cases many with
  | true => simpa [ofRecords, heldRecords_list] using member
  | false =>
      cases records with
      | nil => simp [ofRecords, heldRecords] at member
      | cons first rest =>
          have isFirst : record = first := by simpa [ofRecords, heldRecords] using member
          simp [isFirst]

namespace InsertPlan

/-- Whether a record shows the row of an operation, with records nested into it. -/
inductive Shows (plan : InsertPlan) (rows : Rows) : Nat → Record → Prop where
  | row {index : Nat} {row : Record} (isRow : rowOf rows index = some row) : Shows plan rows index row
  | nested {attachment : Attachment} {record : Record} {held : List Record}
      (number : Record → Nat) (shows : Shows plan rows attachment.parent record)
      (attached : attachment ∈ plan.attachments)
      (isChild : ∀ child ∈ held, number child ∈ attachment.children)
      (each : ∀ child ∈ held, Shows plan rows (number child) child) :
      Shows plan rows attachment.parent
        (record.set attachment.key (.ofRecords attachment.many held))

variable {plan : InsertPlan} {rows current : Rows}

/-- What a record shows under a name comes from its row, or is nested into it. -/
theorem Shows.get? {index : Nat} {record : Record} (shows : plan.Shows rows index record)
    {name : String} {value : Value} (found : record.get? name = some value) :
    (∃ row, rowOf rows index = some row ∧ row.get? name = some value) ∨
      ∃ attachment ∈ plan.attachments, attachment.parent = index ∧ attachment.key = name ∧
        ∀ child ∈ value.heldRecords,
          ∃ number ∈ attachment.children, plan.Shows rows number child := by
  induction shows with
  | row isRow => exact .inl ⟨_, isRow, found⟩
  | @nested attachment record held number shows attached isChild each inductionHypothesis _ =>
      by_cases same : attachment.key = name
      · right
        rw [← same, Record.get?_set_self] at found
        cases found
        refine ⟨attachment, attached, rfl, same, fun child member => ?_⟩
        have isHeld := Value.mem_heldRecords_ofRecords member
        exact ⟨number child, isChild child isHeld, each child isHeld⟩
      · rw [Record.get?_set_of_ne _ _ same] at found
        exact inductionHypothesis found

/-- Names that nothing is nested under are shown as in the row. -/
theorem Shows.get?_of_free {index : Nat} {record : Record} (shows : plan.Shows rows index record)
    {name : String} (free : ∀ attachment ∈ plan.attachments, attachment.parent = index →
      attachment.key ≠ name) :
    ∃ row, rowOf rows index = some row ∧ record.get? name = row.get? name := by
  induction shows with
  | row isRow => exact ⟨_, isRow, rfl⟩
  | @nested attachment record held number shows attached isChild each inductionHypothesis _ =>
      obtain ⟨row, isRow, same⟩ := inductionHypothesis free
      refine ⟨row, isRow, ?_⟩
      have apart := free attachment attached rfl
      rw [Record.get?_set_of_ne _ _ apart]
      exact same

/-! ## Rows that are nested into -/

theorem rowOf_setRow (rows : Rows) (index other : Nat) (row : Record) :
    rowOf (setRow index row rows) other =
      if other = index ∧ (rows.lookup index).isSome then some row else rowOf rows other := by
  induction rows with
  | nil => simp [setRow, rowOf]
  | cons entry rest inductionHypothesis =>
      rcases entry with ⟨number, old⟩
      by_cases here : number = index
      · subst here
        by_cases same : other = number
        · simp [setRow, rowOf, same]
        · simp [setRow, rowOf, same, List.lookup_cons, beq_false_of_ne same]
      · have skips : (index == number) = false := beq_false_of_ne (Ne.symm here)
        by_cases same : other = number
        · have apart : ¬other = index := by
            rw [same]
            exact here
          simp [setRow, here, rowOf, List.lookup_cons, same]
        · have skipsOther : (other == number) = false := beq_false_of_ne same
          simp only [rowOf] at inductionHypothesis
          simp only [setRow, here, if_false, rowOf, List.lookup_cons, skips, skipsOther]
          exact inductionHypothesis

/-- The records under an attachment show the rows of its children. -/
theorem attachedValue_shows (attachment : Attachment)
    (each : ∀ index record, rowOf current index = some record → plan.Shows rows index record) :
    ∃ held, attachedValue current attachment = .ofRecords attachment.many held ∧
      ∀ child ∈ held, ∃ number ∈ attachment.children, plan.Shows rows number child := by
  unfold attachedValue
  cases attachment.many with
  | true =>
      refine ⟨attachment.children.filterMap (rowOf current), rfl, fun child member => ?_⟩
      obtain ⟨number, isNumber, isRow⟩ := List.mem_filterMap.1 member
      exact ⟨number, isNumber, each number child isRow⟩
  | false =>
      cases children : attachment.children with
      | nil => exact ⟨[], rfl, by simp⟩
      | cons number rest =>
          cases isRow : rowOf current number with
          | none => exact ⟨[], by simp [isRow, optionValue, Value.ofRecords], by simp⟩
          | some record =>
              refine ⟨[record], by simp [isRow, optionValue, Value.ofRecords], ?_⟩
              intro child member
              rw [List.mem_singleton.1 member]
              exact ⟨number, List.mem_cons_self .., each number record isRow⟩

/-- One attachment keeps that every row shows that of its operation. -/
theorem attach_shows {attachment : Attachment} (attached : attachment ∈ plan.attachments)
    (each : ∀ index record, rowOf current index = some record → plan.Shows rows index record) :
    ∀ index record, rowOf (attach current attachment) index = some record →
      plan.Shows rows index record := by
  intro index record isRow
  unfold attach at isRow
  cases isParent : rowOf current attachment.parent with
  | none =>
      rw [isParent] at isRow
      exact each index record isRow
  | some parent =>
      rw [isParent] at isRow
      dsimp only at isRow
      rw [rowOf_setRow] at isRow
      split at isRow
      · rename_i here
        cases isRow
        rw [here.1]
        obtain ⟨held, isHeld, numbered⟩ := attachedValue_shows attachment each
        rw [isHeld]
        have total : ∀ child, ∃ number, child ∈ held →
            number ∈ attachment.children ∧ plan.Shows rows number child := by
          intro child
          by_cases member : child ∈ held
          · obtain ⟨number, isChild, shows⟩ := numbered child member
            exact ⟨number, fun _ => ⟨isChild, shows⟩⟩
          · exact ⟨0, fun impossible => absurd impossible member⟩
        choose number isNumber using total
        exact .nested number (each _ parent isParent) attached
          (fun child member => (isNumber child member).1)
          (fun child member => (isNumber child member).2)
      · exact each index record isRow

theorem foldl_attach_shows {attachments : List Attachment}
    (attached : ∀ attachment ∈ attachments, attachment ∈ plan.attachments)
    (each : ∀ index record, rowOf current index = some record → plan.Shows rows index record) :
    ∀ index record, rowOf (attachments.foldl attach current) index = some record →
      plan.Shows rows index record := by
  induction attachments generalizing current with
  | nil => exact each
  | cons attachment rest inductionHypothesis =>
      rw [List.forall_mem_cons] at attached
      exact inductionHypothesis attached.2 (attach_shows attached.1 each)

theorem rowOf_ownRows {index : Nat} {record : Record}
    (isRow : rowOf (plan.ownRows rows) index = some record) : rowOf rows index = some record := by
  have owned : ∀ operations : List Operation, ∀ row,
      (operations.map fun operation => (operation.index, rowOf rows operation.index)).lookup index =
        some row → rowOf rows index = row := by
    intro operations
    induction operations with
    | nil => simp
    | cons operation rest inductionHypothesis =>
        intro row found
        rw [List.map_cons, List.lookup_cons] at found
        split at found
        · rename_i same
          rw [eq_of_beq same]
          exact Option.some.inj found
        · exact inductionHypothesis row found
  unfold rowOf ownRows at isRow
  exact owned _ _ (Option.join_eq_some_iff.1 isRow)

/-- Every record that a plan hands out shows the row of a root operation. -/
theorem shows_assemble {record : Record} (member : record ∈ (plan.assemble rows).heldRecords) :
    ∃ root ∈ plan.roots, plan.Shows rows root record := by
  have each : ∀ index record, rowOf (plan.attachments.foldl attach (plan.ownRows rows)) index =
      some record → plan.Shows rows index record :=
    foldl_attach_shows (fun _ attached => attached) fun _ _ isRow => .row (rowOf_ownRows isRow)
  have ofOption : ∀ root, record ∈ (optionValue (rowOf (plan.attachments.foldl attach
      (plan.ownRows rows)) root)).heldRecords → plan.Shows rows root record := by
    intro root held
    cases isRow : rowOf (plan.attachments.foldl attach (plan.ownRows rows)) root with
    | none => simp [isRow, optionValue, Value.heldRecords] at held
    | some row =>
        have same : record = row := by simpa [isRow, optionValue, Value.heldRecords] using held
        rw [same]
        exact each root row isRow
  unfold assemble at member
  dsimp only at member
  cases many : plan.many with
  | true =>
      rw [many, if_pos rfl] at member
      obtain ⟨value, isValue, isRecord⟩ := List.mem_filterMap.1 member
      obtain ⟨root, isRoot, rfl⟩ := List.mem_map.1 isValue
      refine ⟨root, isRoot, ofOption root ?_⟩
      split at isRecord
      · rename_i fields isObject
        cases isRecord
        rw [isObject]
        exact List.mem_singleton_self record
      · cases isRecord
  | false =>
      rw [many, if_neg Bool.false_ne_true] at member
      cases roots : plan.roots with
      | nil => simp [roots, Value.heldRecords] at member
      | cons root rest =>
          rw [roots] at member
          exact ⟨root, List.mem_cons_self .., ofOption root member⟩

end InsertPlan

end RecordGraph
