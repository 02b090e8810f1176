import RecordGraph.Http.Route
import RecordGraph.Proofs.Expression.Trail
import RecordGraph.Proofs.Schema.Reachable
import RecordGraph.Proofs.Text.Numeral
import RecordGraph.Store.Database

/-!
Contract: which rows the routes of a mount reach by the texts of their primary keys.

Owns: `IsKeyOf`, what the text of a key is read back as, and the endpoints of a path that ends in it.
Does not own: what operations do with a key, and keys in bodies.

The text of a key is read by the type of its column alone. Any text is true unless it is empty, and
none is a date.
-/

namespace RecordGraph.Http

open RecordGraph.Text

/-- The values that a primary key has whose column holds integers, texts, truth values or dates. A
date is known by its text. -/
inductive IsKeyOf : ColumnType → Value → Prop where
  | integer {type : ColumnType} (isInteger : type = .integer ∨ type = .bigInteger) {number : Int}
      (isWritten : IsWritten number) : IsKeyOf type (.int number)
  | string (chars : String) : IsKeyOf .string (.text chars)
  | boolean (flag : Bool) : IsKeyOf .boolean (.bool flag)
  | date (day : String) : IsKeyOf .date (.text day)

/-! ## Texts of keys -/

section Texts

variable {entity : Entity} {value : Value}

theorem readKey_of_some {key : Value} (reads : keyValue entity.key value = .ok (some key)) :
    readKey entity value = .ok key := by
  unfold readKey
  rw [reads]
  rfl

theorem readKey_of_none (reads : keyValue entity.key value = .ok none) :
    readKey entity value = .error (.rejected (.missing entity.name)) := by
  unfold readKey
  rw [reads]
  rfl

theorem readKey_of_integer (isInteger : entity.key.type = .integer ∨ entity.key.type = .bigInteger)
    {number : Int} (isWritten : IsWritten number) :
    readKey entity (.text (Value.int number).display) = .ok (.int number) := by
  have isRead : integerKey (.text (Value.int number).display) = .ok (some (.int number)) := by
    change Except.ok ((readInt (toString number)).map Value.int) = _
    rw [readInt_toString isWritten]
    rfl
  refine readKey_of_some ?_
  unfold keyValue
  rcases isInteger with isType | isType
  · rw [isType]
    exact isRead
  · rw [isType]
    exact isRead

theorem readKey_of_string (isString : entity.key.type = .string) (chars : String) :
    readKey entity (.text chars) = .ok (.text chars) := by
  refine readKey_of_some ?_
  rw [keyValue, isString]
  rfl

/-- A text is true unless it is empty, whatever it says. -/
theorem readKey_of_boolean (isBoolean : entity.key.type = .boolean) (flag : Bool) :
    readKey entity (.text (Value.bool flag).display) = .ok (.bool true) := by
  refine readKey_of_some ?_
  rw [keyValue, isBoolean]
  cases flag <;> rfl

theorem readKey_of_date (isDate : entity.key.type = .date) (value : Value) :
    readKey entity value = .error (.rejected (.missing entity.name)) := by
  refine readKey_of_none ?_
  rw [keyValue, isDate]
  rfl

/-- Keys that are objects are read from objects as they are. From what is none, an object is made or
nothing. -/
theorem objectKey_eq_some {key : Value} (reads : objectKey value = some key) :
    ∃ fields, key = .object fields ∧ ∀ own, value = .object own → fields = own := by
  unfold objectKey at reads
  split at reads
  · rename_i own
    cases reads
    exact ⟨own, rfl, fun _ same => Value.object.inj same⟩
  · rename_i notObject
    obtain ⟨_, _, reads⟩ := Option.bind_eq_some_iff.1 reads
    obtain ⟨_, _, reads⟩ := Option.bind_eq_some_iff.1 reads
    cases reads
    exact ⟨_, rfl, fun own same => absurd same (notObject own)⟩

/-- A column of objects has objects as keys, whatever they are read from. -/
theorem readKey_of_objects {key : Value} (isDocument : entity.key.type = .json)
    (holdsObjects : entity.key.holdsObjects = true) (reads : readKey entity value = .ok key) :
    ∃ fields, key = .object fields ∧ ∀ own, value = .object own → fields = own := by
  have isRead : keyValue entity.key value = .ok (objectKey value) := by
    rw [keyValue, isDocument, holdsObjects]
    rfl
  cases isKey : objectKey value with
  | none =>
      rw [isKey] at isRead
      cases (readKey_of_none isRead).symm.trans reads
  | some read =>
      rw [isKey] at isRead
      cases (readKey_of_some isRead).symm.trans reads
      exact objectKey_eq_some isKey

/-- What is walked through for an object must give pairs, by keys that can be looked up. -/
example :
    objectKey (.text "") = some (.object []) ∧ objectKey (.text "ab") = none ∧
      objectKey (.list [.list [.int 1, .null], .text "ab", .list [.bool true, .int 2]]) =
        some (.object [("1", .int 2), ("a", .text "b")]) ∧
      objectKey (.list [.list [.list [], .null]]) = none := ⟨rfl, rfl, rfl, rfl⟩

/-- The text of a key is read back as the key, unless it is that of a date, or of what is false. -/
theorem readKey_display_iff (isKey : IsKeyOf entity.key.type value) :
    readKey entity (.text value.display) = .ok value ↔
      entity.key.type ≠ .date ∧ value ≠ .bool false := by
  generalize isType : entity.key.type = type at isKey
  cases isKey with
  | integer isInteger isWritten =>
      refine iff_of_true (readKey_of_integer (by rwa [isType]) isWritten) ⟨?_, nofun⟩
      rcases isInteger with rfl | rfl <;> exact nofun
  | string chars => exact iff_of_true (readKey_of_string isType chars) ⟨nofun, nofun⟩
  | boolean flag =>
      rw [readKey_of_boolean isType]
      cases flag <;> simp
  | date day =>
      rw [readKey_of_date isType]
      exact iff_of_false nofun fun reached => reached.1 rfl

/-- Keys whose texts are read as one key are one key, unless they are truth values. -/
theorem eq_of_readKey {other key : Value} (isKey : IsKeyOf entity.key.type value)
    (isOther : IsKeyOf entity.key.type other)
    (reads : readKey entity (.text value.display) = .ok key)
    (otherReads : readKey entity (.text other.display) = .ok key) :
    value = other ∨ entity.key.type = .boolean := by
  by_cases isDate : entity.key.type = .date
  · rw [readKey_of_date isDate] at reads
    cases reads
  · by_cases isBoolean : entity.key.type = .boolean
    · exact .inr isBoolean
    · have isTruth : ∀ each, IsKeyOf entity.key.type each → each ≠ .bool false := by
        rintro _ isEach rfl
        generalize entity.key.type = type at isEach isBoolean
        cases isEach
        exact isBoolean rfl
      rw [(readKey_display_iff isKey).2 ⟨isDate, isTruth value isKey⟩] at reads
      rw [(readKey_display_iff isOther).2 ⟨isDate, isTruth other isOther⟩] at otherReads
      exact .inl (Except.ok.inj (reads.trans otherReads.symm))

end Texts

/-! ## Paths -/

theorem segments?_slash (rest : List Char) :
    segments? ('/' :: rest) =
      if (splitMarks '/' rest).contains [] then none
      else some ((splitMarks '/' rest).map String.ofList) :=
  rfl

/-- A path has a single segment if and only if something follows its slash, and no other slash. -/
theorem segments?_eq_single_iff {text : String} :
    segments? ('/' :: text.toList) = some [text] ↔ text ≠ "" ∧ '/' ∉ text.toList := by
  rw [segments?_slash]
  by_cases hasSlash : '/' ∈ text.toList
  · -- The pieces on both sides of the slash are segments of their own.
    refine iff_of_false (fun isSingle => ?_) fun single => single.2 hasSlash
    obtain ⟨before, after, isSplit⟩ := List.append_of_mem hasSlash
    split at isSingle
    · cases isSingle
    · have isLength := congrArg List.length (Option.some.inj isSingle)
      rw [isSplit, splitMarks_append, List.length_map, List.length_append, List.length_singleton]
        at isLength
      have hasBefore := List.length_pos_of_ne_nil (splitMarks_ne_nil '/' before)
      have hasAfter := List.length_pos_of_ne_nil (splitMarks_ne_nil '/' after)
      omega
  · have isContained : [text.toList].contains [] = true ↔ text = "" := by
      rw [List.contains_iff_mem, List.mem_singleton, eq_comm, String.toList_eq_nil_iff]
    rw [splitMarks_of_not_mem hasSlash, List.map_singleton, String.ofList_toList, and_iff_left hasSlash]
    by_cases isEmpty : text = ""
    · rw [if_pos (isContained.2 isEmpty)]
      exact iff_of_false nofun (not_not_intro isEmpty)
    · rw [if_neg (mt isContained.1 isEmpty)]
      exact iff_of_true rfl isEmpty

/-- The endpoints that change and remove the row with a key. -/
def rowEndpoints (text : String) : List (String × Endpoint) :=
  [("PATCH", .patch text), ("DELETE", .delete text)]

/-- A place has the endpoints of a row if and only if it is a single segment. -/
theorem endpoints_eq_row_iff {below : Option (List String)} {text : String} :
    (below.map endpoints).getD [] = rowEndpoints text ↔ below = some [text] := by
  refine ⟨fun same => ?_, fun isSingle => by rw [isSingle]; rfl⟩
  cases below with
  | none => cases same
  | some segments =>
      change endpoints segments = rowEndpoints text at same
      unfold endpoints rowEndpoints at same
      split at same
      · simp at same
      · simp only [List.cons.injEq, Prod.mk.injEq, Endpoint.patch.injEq, true_and] at same
        rw [same.1]
      · simp at same
      · simp at same
      · cases same

namespace Mount

variable {σ : Type}

/-- A mount offers the endpoints of a row below its own path if and only if the text of the row's key
is a segment. -/
theorem offers_row_iff (mount : Mount σ) {text : String} :
    (mount.offers (mount.path.toList ++ '/' :: text.toList)).map (fun offer => (offer.1, offer.2.2)) =
        rowEndpoints text ↔
      text ≠ "" ∧ '/' ∉ text.toList := by
  rw [← segments?_eq_single_iff, ← endpoints_eq_row_iff]
  have isBelow : mount.path.toList.isPrefixOf (mount.path.toList ++ '/' :: text.toList) = true :=
    List.isPrefixOf_iff_prefix.2 (List.prefix_append _ _)
  unfold offers
  rw [if_pos isBelow, List.drop_left, List.map_map]
  exact Eq.congr_left (List.map_id _)

/-- The text of a primary key is read back as that key if and only if the key is neither a date nor
false. No other key is read as the same one unless the column holds truth values. And a path that
ends in the text leads to the row if and only if the text is a segment. -/
theorem reaches_iff (mount : Mount σ) {value : Value} (isKey : IsKeyOf mount.entity.key.type value) :
    (readKey mount.entity (.text value.display) = .ok value ↔
      mount.entity.key.type ≠ .date ∧ value ≠ .bool false) ∧
    (∀ other key, IsKeyOf mount.entity.key.type other →
      readKey mount.entity (.text value.display) = .ok key →
      readKey mount.entity (.text other.display) = .ok key →
        value = other ∨ mount.entity.key.type = .boolean) ∧
    ((mount.offers (mount.path.toList ++ '/' :: value.display.toList)).map
        (fun offer => (offer.1, offer.2.2)) = rowEndpoints value.display ↔
      value.display ≠ "" ∧ '/' ∉ value.display.toList) :=
  ⟨readKey_display_iff isKey, fun _ _ isOther => eq_of_readKey isKey isOther, mount.offers_row_iff⟩

end Mount

/-! ## A panel of switches -/

namespace Panel

def switchTable : Table where
  name := "switch"
  columns := [{ name := "isOn", type := .boolean, primaryKey := true }]

def dayTable : Table where
  name := "day"
  columns := [{ name := "date", type := .date, primaryKey := true }]

def switch : Entity where
  name := "switch"
  table := switchTable
  key := { name := "isOn", type := .boolean, primaryKey := true }
  relations := []

def day : Entity where
  name := "day"
  table := dayTable
  key := { name := "date", type := .date, primaryKey := true }
  relations := []

def registry : Registry where
  schema := [switchTable, dayTable]
  entities := [switch, day]
  frozen := true

theorem registry_reachable : registry.Reachable := by
  have switches : Registry.register { schema := registry.schema } "switch" [] =
      .ok { schema := registry.schema, entities := [switch] } := rfl
  have both : Registry.register { schema := registry.schema, entities := [switch] } "day" [] =
      .ok { schema := registry.schema, entities := [switch, day] } := rfl
  have frozen : Registry.freeze { schema := registry.schema, entities := [switch, day] } =
      .ok registry := rfl
  exact .freeze (.register (.register (.start _) switches) both) frozen

def mount : Mount (UnitState Database) where
  path := "/switches"
  repository := {
    registry, entity := switch, config := {}
    scope := some Database.scope, executor := Database.executor }
  insertAllow := .unrestricted
  eagerAllow := .unrestricted

/-- A row for each of the two keys. -/
def database : Database where
  store := { tables := [
    { table := switchTable, rows := [⟨1, [("isOn", .int 0)]⟩, ⟨2, [("isOn", .int 1)]⟩] },
    { table := dayTable }] }

/-- The text of true is read back as true, and leads to its row. -/
theorem on_reached :
    IsKeyOf mount.entity.key.type (.bool true) ∧
      readKey mount.entity (.text (Value.bool true).display) = .ok (.bool true) ∧
      (mount.offers (mount.path.toList ++ '/' :: (Value.bool true).display.toList)).map
        (fun offer => (offer.1, offer.2.2)) = rowEndpoints (Value.bool true).display := by
  have isKey : IsKeyOf mount.entity.key.type (.bool true) := .boolean true
  obtain ⟨reads, _, leads⟩ := mount.reaches_iff isKey
  exact ⟨isKey, reads.2 ⟨nofun, nofun⟩, leads.2 (by decide)⟩

/-- The text of false is read as true, so that removing the row of false removes that of true. And no
text is read as a date. -/
theorem off_read_as_on :
    registry.Reachable ∧ registry.entity "switch" = .ok mount.entity ∧
      IsKeyOf mount.entity.key.type (.bool false) ∧
      readKey mount.entity (.text (Value.bool false).display) = .ok (.bool true) ∧
      ((mount.delete (Value.bool false).display).run ⟨database, false⟩).1.isOk = true ∧
      ((((mount.delete (Value.bool false).display).run ⟨database, false⟩).2.world.store.tableOf
        switchTable).rows.map fun row => row.cell "isOn") = [.int 0] ∧
      registry.entity "day" = .ok day ∧ IsKeyOf day.key.type (.text "2020-01-31") ∧
      readKey day (.text (Value.text "2020-01-31").display) =
        .error (.rejected (.missing "day")) := by
  refine ⟨registry_reachable, rfl, .boolean false, rfl, by decide +kernel, ?_, rfl, .date _, rfl⟩
  rfl

end Panel

end RecordGraph.Http
