import RecordGraph.Proofs.Execution.Exact
import RecordGraph.Proofs.Execution.Shelf
import RecordGraph.Proofs.Value.Same

/-!
Contract: a database that keeps rows as they are given, and of which single columns can be set.

Owns: `Ledger`, its session and transactions, and that every change of it is told in full.
Does not own: any schema.

A ledger is a shelf of scalars on which null equals nothing. It refuses what a shelf refuses, and
lets one column of the row with a primary key be set, but not the key itself.
-/

namespace RecordGraph

open RecordGraph.Sql

/-- Equality of scalars as databases have it, where null equals nothing. -/
def Value.equals (left right : Value) : Bool :=
  left.isKey && !left.isNull && left.same right

theorem Value.equals_iff {left right : Value} :
    left.equals right = true ↔ left.isKey = true ∧ left.isNull = false ∧ left.same right = true := by
  unfold equals
  rw [Bool.and_eq_true, Bool.and_eq_true, Bool.not_eq_true', and_assoc]

/-- Values that differ are not equal to one value. -/
theorem Value.not_equals_of_not_same {common left right : Value} (isKey : left.isKey = true)
    (differ : left.same right = false) :
    ¬(common.equals left = true ∧ common.equals right = true) := by
  rintro ⟨equalLeft, equalRight⟩
  obtain ⟨commonKey, _, sameLeft⟩ := equals_iff.1 equalLeft
  obtain ⟨_, _, sameRight⟩ := equals_iff.1 equalRight
  rw [same_of_same_same commonKey isKey sameLeft sameRight] at differ
  cases differ

/-- A shelf of scalars that holds no row twice. -/
structure Ledger (schema : Schema) extends Shelf schema where
  scalar : ∀ name, ∀ tuple ∈ contents name, ∀ column, (tuple column).isKey = true
  apart : ∀ name key, schema.keyName? name = some key →
    (contents name).Pairwise fun tuple other => (tuple key).same (other key) = false

namespace Ledger

variable {schema : Schema}

def empty (schema : Schema) : Ledger schema where
  toShelf := .empty schema
  scalar _ _ member := absurd member List.not_mem_nil
  apart _ _ _ := .nil

/-! ## Rows that are added -/

def accepts (ledger : Ledger schema) (name : String) (values : Record) : Bool :=
  ledger.toShelf.accepts name values && values.all fun field => field.2.isKey

/-- The ledger with one more row. -/
def add (ledger : Ledger schema) (name : String) (values : Record)
    (accepted : ledger.accepts name values = true) : Ledger schema where
  toShelf := ledger.toShelf.add name values (Bool.and_eq_true_iff.1 accepted).1
  scalar other tuple member column := by
    rcases Shelf.mem_added.1 member with isOld | ⟨rfl, rfl⟩
    · exact ledger.scalar other tuple isOld column
    · unfold Shelf.tupleOf
      split
      · rfl
      · exact Record.getD_of_all rfl (Bool.and_eq_true_iff.1 accepted).2 column
  apart other key isKey := by
    change (Shelf.added ledger.contents name _ other).Pairwise _
    unfold Shelf.added
    by_cases same : other = name
    · subst same
      rw [if_pos rfl, List.pairwise_append]
      refine ⟨ledger.apart other key isKey, List.pairwise_singleton .., ?_⟩
      intro tuple member new isNew
      rw [List.mem_singleton.1 isNew]
      exact (ledger.toShelf.tupleOf_apart (Bool.and_eq_true_iff.1 accepted).1 isKey member).2
    · rw [if_neg same]
      exact ledger.apart other key isKey

theorem gains_added (contents : Contents) (name : String) (tuple : Tuple) :
    contents.Gains (Shelf.added contents name tuple) name tuple where
  row := by
    unfold Shelf.added
    rw [if_pos rfl]
    exact List.perm_append_singleton tuple (contents name)
  others other apart := by
    unfold Shelf.added
    rw [if_neg apart]

/-! ## Columns that are set -/

/-- What sets one column in the row that has a key. -/
structure Change where
  table : String
  key : String
  sought : Value
  column : String
  value : Value

namespace Change

variable {change : Change}

/-- The row of a table after a change. -/
def patch (change : Change) (name : String) (tuple : Tuple) : Tuple :=
  if name = change.table ∧ change.sought.equals (tuple change.key) = true then
    tuple.set change.column change.value
  else tuple

def patched (change : Change) (contents : Contents) : Contents :=
  fun name => (contents name).map (change.patch name)

/-- Whether rows are found by their key, and a scalar is put into another column. -/
def permitted (schema : Schema) (change : Change) : Bool :=
  schema.keyName? change.table == some change.key && change.column != change.key &&
    change.value.isSteady && change.value.isKey

theorem permitted_iff : change.permitted schema = true ↔
    schema.keyName? change.table = some change.key ∧ change.column ≠ change.key ∧
      change.value.isSteady = true ∧ change.value.isKey = true := by
  unfold permitted
  rw [Bool.and_eq_true, Bool.and_eq_true, Bool.and_eq_true, beq_iff_eq, bne_iff_ne, and_assoc,
    and_assoc]

/-- A value of a changed row is one of the row, or the one that has been put into the column. -/
theorem patch_cases (change : Change) (name : String) (tuple : Tuple) (column : String) :
    change.patch name tuple column = tuple column ∨
      name = change.table ∧ column = change.column ∧
        change.patch name tuple column = change.value := by
  unfold patch
  split
  · rename_i found
    by_cases same : column = change.column
    · rw [same, tuple.set_self]
      exact .inr ⟨found.1, rfl, rfl⟩
    · exact .inl (tuple.set_of_ne _ same)
  · exact .inl rfl

/-- What holds of the value that is put into a column, and of a row, holds of the changed row. -/
theorem patch_of_both (holds : Value → Prop) {name : String} {tuple : Tuple}
    (ofValue : holds change.value) (ofRow : ∀ column, holds (tuple column)) (column : String) :
    holds (change.patch name tuple column) := by
  rcases change.patch_cases name tuple column with unchanged | ⟨_, _, isNew⟩
  · rw [unchanged]
    exact ofRow column
  · rw [isNew]
    exact ofValue

/-- Keys stay what they are. -/
theorem patch_key (permitted : change.permitted schema = true) {name key : String}
    (isKey : schema.keyName? name = some key) (tuple : Tuple) :
    change.patch name tuple key = tuple key := by
  obtain ⟨isKey', keeps, _⟩ := permitted_iff.1 permitted
  rcases change.patch_cases name tuple key with unchanged | ⟨rfl, rfl, _⟩
  · exact unchanged
  · rw [isKey] at isKey'
    exact absurd (Option.some.inj isKey') keeps

/-- Rows that do not have the key stay what they are. -/
theorem map_patch_of_not_found {name : String} {tuples : List Tuple}
    (missing : ∀ tuple ∈ tuples, ¬change.sought.equals (tuple change.key) = true) :
    tuples.map (change.patch name) = tuples := by
  have stays : ∀ tuple ∈ tuples, change.patch name tuple = id tuple := by
    intro tuple member
    exact if_neg fun found => missing tuple member found.2
  rw [List.map_congr_left stays, List.map_id]

end Change

/-- The ledger with a column set in the row that has a key. -/
def change (ledger : Ledger schema) (change : Change)
    (permitted : change.permitted schema = true) : Ledger schema where
  contents := change.patched ledger.contents
  filled name key isKey tuple member := by
    obtain ⟨old, isOld, rfl⟩ := List.mem_map.1 member
    rw [change.patch_key permitted isKey]
    exact ledger.filled name key isKey old isOld
  keyed name key isKey tuple member other otherMember same := by
    obtain ⟨old, isOld, rfl⟩ := List.mem_map.1 member
    obtain ⟨old', isOld', rfl⟩ := List.mem_map.1 otherMember
    rw [change.patch_key permitted isKey, change.patch_key permitted isKey] at same
    rw [ledger.keyed name key isKey old isOld old' isOld' same]
  steady name tuple member column := by
    obtain ⟨old, isOld, rfl⟩ := List.mem_map.1 member
    exact Change.patch_of_both (·.isSteady = true)
      (Change.permitted_iff.1 permitted).2.2.1 (ledger.steady name old isOld) column
  scalar name tuple member column := by
    obtain ⟨old, isOld, rfl⟩ := List.mem_map.1 member
    exact Change.patch_of_both (·.isKey = true)
      (Change.permitted_iff.1 permitted).2.2.2 (ledger.scalar name old isOld) column
  apart name key isKey := by
    rw [Change.patched, List.pairwise_map]
    refine (ledger.apart name key isKey).imp fun differ => ?_
    rw [change.patch_key permitted isKey, change.patch_key permitted isKey]
    exact differ

/-- A change sets the column of the row that has the key. -/
theorem sets_patched (ledger : Ledger schema) {change : Change}
    (permitted : change.permitted schema = true) {tuple : Tuple}
    (member : tuple ∈ ledger.contents change.table)
    (found : change.sought.equals (tuple change.key) = true) :
    ledger.contents.Sets (change.patched ledger.contents) change.table tuple change.column
      change.value where
  row := by
    obtain ⟨front, back, isSplit⟩ := List.append_of_mem member
    have apart := ledger.apart change.table change.key (Change.permitted_iff.1 permitted).1
    have scalar := fun other isOther => ledger.scalar change.table other isOther change.key
    rw [isSplit] at apart scalar
    rw [List.pairwise_append, List.pairwise_cons] at apart
    obtain ⟨_, ⟨ofBack, _⟩, ofFront⟩ := apart
    have frontStays : front.map (change.patch change.table) = front :=
      Change.map_patch_of_not_found fun other isOther isFound =>
        Value.not_equals_of_not_same (scalar other (by simp [isOther]))
          (ofFront other isOther tuple (by simp)) ⟨isFound, found⟩
    have backStays : back.map (change.patch change.table) = back :=
      Change.map_patch_of_not_found fun other isOther isFound =>
        Value.not_equals_of_not_same (scalar tuple (by simp)) (ofBack other isOther)
          ⟨found, isFound⟩
    have isSet : change.patch change.table tuple = tuple.set change.column change.value :=
      if_pos ⟨rfl, found⟩
    refine ⟨front ++ back, ?_, ?_⟩
    · rw [isSplit]
      exact List.perm_middle
    · unfold Change.patched
      rw [isSplit, List.map_append, List.map_cons, frontStays, backStays, isSet]
      exact List.perm_middle
  others name apart := by
    have stays : ∀ tuple ∈ ledger.contents name, change.patch name tuple = id tuple :=
      fun tuple _ => if_neg fun found => apart found.1
    unfold Change.patched
    rw [List.map_congr_left stays, List.map_id]

end Ledger

/-! ## Sessions -/

/-- A ledger with the one that others see. -/
structure Ledger.Copy (schema : Schema) where
  saved : Ledger schema
  current : Ledger schema
  isOpen : Bool := false

namespace Ledger

variable {schema : Schema} {copy after : Copy schema} {cursor : Cursor}

/-- The change that an update makes which sets one column in the row with a key. -/
def changeOf? (update : Update) : Option Change :=
  match update.values, update.conditions with
  | [(column, value)], [condition] =>
      match condition.sought? with
      | some (ref, [sought]) =>
          some { table := update.table.name, key := ref.column, sought, column, value }
      | _ => none
  | _, _ => none

def run (statement : Statement) (copy : Copy schema) : Reply × Copy schema :=
  match statement with
  | .select select => (.done { rows := copy.current.contents.answer Value.equals select }, copy)
  | .insert insert =>
      match insert.rows with
      | [values] =>
          if accepted : copy.current.accepts insert.table.name values = true then
            let tuple := copy.current.tupleOf insert.table.name values
            (.done {
              rows := if insert.returning then [tuple.shown insert.table] else []
              count := 1
              insertedKey := insert.table.keyNames.map tuple },
              { copy with current := copy.current.add insert.table.name values accepted })
          else (.refused (.database "not accepted"), copy)
      | _ => (.refused (.database "not one row"), copy)
  | .update update =>
      match changeOf? update with
      | some change =>
          if permitted : change.permitted schema = true then
            (.done {}, { copy with current := copy.current.change change permitted })
          else (.refused (.database "not permitted"), copy)
      | none => (.refused (.database "not one column"), copy)
  | .delete _ => (.refused (.database "not supported"), copy)

def session (schema : Schema) : Session (Copy schema) where
  dialect := .sqlite
  run := run

def control (schema : Schema) : SessionControl (Copy schema) where
  create := pure true
  inTransaction copy := copy.isOpen
  begin := modify fun copy => { copy with current := copy.saved, isOpen := true }
  commit := modify fun copy => { copy with saved := copy.current, isOpen := false }
  rollback := modify fun copy => { copy with current := copy.saved, isOpen := false }
  close := pure ()

theorem run_insert {insert : Insert} {values : Record} (isSingle : insert.rows = [values])
    (ran : run (.insert insert) copy = (.done cursor, after)) :
    ∃ accepted : copy.current.accepts insert.table.name values = true,
      after = { copy with current := copy.current.add insert.table.name values accepted } ∧
        cursor.rows =
          (if insert.returning then
              [(copy.current.tupleOf insert.table.name values).shown insert.table]
            else []) ∧
          cursor.insertedKey = insert.table.keyNames.map
            (copy.current.tupleOf insert.table.name values) := by
  unfold run at ran
  simp only [isSingle] at ran
  split at ran
  · rename_i accepted
    cases ran
    exact ⟨accepted, rfl, rfl, rfl⟩
  · cases ran

theorem run_update {update : Update} {change : Change} (isChange : changeOf? update = some change)
    (ran : run (.update update) copy = (.done cursor, after)) :
    ∃ permitted : change.permitted schema = true,
      after = { copy with current := copy.current.change change permitted } := by
  unfold run at ran
  simp only [isChange] at ran
  split at ran
  · rename_i permitted
    cases ran
    exact ⟨permitted, rfl⟩
  · cases ran

theorem run_keeps (statement : Statement) (copy : Copy schema) :
    (run statement copy).2.isOpen = copy.isOpen ∧ (run statement copy).2.saved = copy.saved := by
  unfold run
  split
  · exact ⟨rfl, rfl⟩
  · split
    · split <;> exact ⟨rfl, rfl⟩
    · exact ⟨rfl, rfl⟩
  · split
    · split <;> exact ⟨rfl, rfl⟩
    · exact ⟨rfl, rfl⟩
  · exact ⟨rfl, rfl⟩

/-- A ledger keeps the promises of a session. -/
def transactional (schema : Schema) : Transactional (control schema) (session schema) Contents where
  stored copy := copy.saved.contents
  current copy := copy.current.contents
  Effect _ _ _ := True
  create world closed := ⟨world, rfl, closed, rfl⟩
  begin world closed := ⟨_, rfl, rfl, rfl, rfl⟩
  run statement world opened := by
    have kept := run_keeps statement world
    exact ⟨kept.1.trans opened, congrArg (·.contents) kept.2, fun _ _ => trivial⟩
  commit world opened := ⟨_, rfl, rfl⟩
  rollback world opened := ⟨_, rfl, rfl⟩
  close world := ⟨world, rfl, rfl⟩

/-! ## Exactness -/

/-- The database of a ledger, as a unit of work sees it. -/
abbrev storage (schema : Schema) : Storage (Workplace (Copy schema)) :=
  (transactional schema).storage Value.equals

variable {world : Workplace (Copy schema)}

theorem opened_run (opened : Opened (control schema) world) (statement : Statement) :
    Opened (control schema) ((storage schema).session.run statement world).2 :=
  ⟨opened.holds, (run_keeps _ _).1.trans opened.transaction⟩

/-- An insert of one row adds it as it was given. -/
theorem run_gains {insert : Insert} {values : Record} {left : Workplace (Copy schema)}
    (opened : Opened (control schema) world) (isSingle : insert.rows = [values])
    (ran : (storage schema).session.run (.insert insert) world = (.done cursor, left)) :
    Opened (control schema) left ∧ ∃ tuple : Tuple,
      (∀ name value, values.get? name = some value → value.isNull = false → tuple name = value) ∧
      ((storage schema).contents world).Gains ((storage schema).contents left) insert.table.name
        tuple ∧
        if insert.returning then cursor.rows = [tuple.shown insert.table]
        else tuple.Reports insert.table cursor.insertedKey := by
  obtain ⟨isDone, rfl⟩ := Prod.mk.inj ran
  obtain ⟨accepted, isCopy, isRows, isKey⟩ := run_insert isSingle (Prod.ext isDone rfl)
  have isAdded : (run (.insert insert) world.world.world).2.current.contents =
      Shelf.added world.world.world.current.contents insert.table.name
        (world.world.world.current.tupleOf insert.table.name values) :=
    congrArg (·.current.contents) isCopy
  refine ⟨opened_run opened _, world.world.world.current.tupleOf insert.table.name values,
    fun name value given notNull => Shelf.tupleOf_given _ _ given notNull, ?_, ?_⟩
  · change (world.world.world.current.contents).Gains
      (run (.insert insert) world.world.world).2.current.contents insert.table.name _
    rw [isAdded]
    exact gains_added _ _ _
  · cases returning : insert.returning with
    | true => simpa [returning] using isRows
    | false =>
        rw [if_neg Bool.false_ne_true, isKey]
        exact Tuple.reports_map _ _

/-- Every change of a ledger is told in full. -/
theorem exact (schema : Schema) : (storage schema).Exact schema where
  keeps select world opened := ⟨opened_run opened _, rfl⟩
  answers select ref sought world opened asks _ :=
    ⟨_, rfl, Contents.mem_answer (storage schema) asks⟩
  keyless table key world cursor opened isTable isKey isDone := by
    cases isDone
    refine List.eq_nil_iff_forall_not_mem.2 fun row member => ?_
    obtain ⟨_, _, ⟨value, isValue, equal⟩, _⟩ :=
      (Contents.mem_answer (storage schema) (Select.asks_byKey isTable isKey .null) row).1 member
    rw [List.mem_singleton.1 isValue] at equal
    cases equal
  inserts insert values world cursor after opened isTable isSingle isPlain ran := by
    obtain ⟨stillOpen, tuple, stored, gains, isCursor⟩ := run_gains opened isSingle ran
    exact ⟨stillOpen, tuple, ⟨stored, fun name other => gains.mem_iff⟩, isCursor⟩
  filled world table key opened isTable isKey :=
    world.world.world.current.filled table.name key.name (Schema.keyName?_eq isTable isKey)
  keyed world table key opened isTable isKey tuple member other isOther equal :=
    world.world.world.current.keyed table.name key.name (Schema.keyName?_eq isTable isKey) tuple
      member other isOther (Value.equals_iff.1 equal).2.2
  reflexive world value opened stored notNull := by
    rcases stored with rfl | ⟨name, tuple, member, column, rfl⟩
    · cases notNull
    · have isSteady := world.world.world.current.steady name tuple member column
      rw [Value.isSteady, notNull, Bool.false_or] at isSteady
      exact Value.equals_iff.2
        ⟨world.world.world.current.scalar name tuple member column, notNull, isSteady⟩
  null value equal := by cases equal
  gives select ref sought world cursor opened asks _ isDone := by
    cases isDone
    exact Contents.mem_answer (storage schema) asks
  asked table key value world opened isTable isKey found := ⟨_, rfl⟩
  apart world table key opened isTable isKey := by
    have scalar := world.world.world.current.scalar table.name
    refine (world.world.world.current.apart table.name key.name
      (Schema.keyName?_eq isTable isKey)).imp_of_mem fun isTuple _ differ value => ?_
    exact Value.not_equals_of_not_same (scalar _ isTuple key.name) differ
  gains insert values world cursor after opened isTable isSingle isPlain ran :=
    run_gains opened isSingle ran
  sets table key sought column value world cursor after opened isTable isKey isColumn keeps ran := by
    obtain ⟨isDone, rfl⟩ := Prod.mk.inj ran
    have isChange : changeOf? {
        table, values := [(column, value)]
        conditions := [Condition.equal (Term.ofColumn table key) sought] } =
          some ⟨table.name, key.name, sought, column, value⟩ := by
      unfold changeOf?
      simp only [Condition.sought?_equal]
      rfl
    obtain ⟨permitted, isCopy⟩ := run_update isChange (Prod.ext isDone rfl)
    have isChanged := congrArg (·.current.contents) isCopy
    refine ⟨opened_run opened _, fun tuple member found => ?_⟩
    change Contents.Sets _ (run (.update _) world.world.world).2.current.contents _ _ _ _
    rw [isChanged]
    exact world.world.world.current.sets_patched permitted member found

end Ledger

end RecordGraph
