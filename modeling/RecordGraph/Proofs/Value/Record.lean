import RecordGraph.Value.Record

/-!
Contract: records after a replacement or a removal.

Owns: what `Record.get?` finds after `Record.set` and `Record.erase`, and where a new name goes.
Does not own: the names that a record has.
-/

namespace RecordGraph.Record

theorem get?_cons (key : String) (value : Value) (rest : Record) (name : String) :
    Record.get? ((key, value) :: rest) name = if key = name then some value else rest.get? name := rfl

theorem get?_of_not_has {record : Record} {name : String} (lacks : record.has name = false) :
    record.get? name = none := by
  unfold Record.get?
  induction record with
  | nil => rfl
  | cons field rest inductionHypothesis =>
      rcases Bool.or_eq_false_iff.1 lacks with ⟨isOther, lacks⟩
      rw [Value.field?, if_neg (by simpa using isOther)]
      exact inductionHypothesis lacks

theorem has_iff {record : Record} {name : String} :
    record.has name = true ↔ ∃ value, record.get? name = some value := by
  unfold Record.get?
  induction record with
  | nil => exact iff_of_false Bool.false_ne_true nofun
  | cons field rest inductionHypothesis =>
      rw [Value.field?]
      by_cases same : field.1 = name
      · rw [if_pos same]
        exact iff_of_true (Bool.or_eq_true_iff.2 (.inl (beq_iff_eq.2 same))) ⟨field.2, rfl⟩
      · rw [if_neg same, ← inductionHypothesis]
        exact Bool.or_eq_true_iff.trans (or_iff_right (by simpa using same))

@[simp] theorem get?_set_self (record : Record) (name : String) (value : Value) :
    (record.set name value).get? name = some value := by
  induction record with
  | nil => rw [set, get?_cons, if_pos rfl]
  | cons field rest inductionHypothesis =>
      rcases field with ⟨key, old⟩
      rw [set]
      by_cases same : key = name
      · rw [if_pos same, get?_cons, if_pos same]
      · rw [if_neg same, get?_cons, if_neg same, inductionHypothesis]

theorem get?_set_of_ne (record : Record) {name other : String} (value : Value)
    (apart : name ≠ other) : (record.set name value).get? other = record.get? other := by
  induction record with
  | nil =>
      rw [set, get?_cons, if_neg apart]
  | cons field rest inductionHypothesis =>
      rcases field with ⟨key, old⟩
      rw [set]
      by_cases same : key = name
      · rw [if_pos same, get?_cons, get?_cons, same, if_neg apart, if_neg apart]
      · rw [if_neg same, get?_cons, get?_cons, inductionHypothesis]

/-- A name that a record lacks is added at its end. -/
theorem set_of_not_mem {record : Record} {name : String} (lacks : name ∉ record.names)
    (value : Value) : record.set name value = record ++ [(name, value)] := by
  induction record with
  | nil => rfl
  | cons field rest inductionHypothesis =>
      obtain ⟨apart, lacks⟩ := not_or.1 (mt List.mem_cons.2 lacks)
      rw [set, if_neg (Ne.symm apart), inductionHypothesis lacks]
      rfl

/-- The lookup of a name that is found among keys with values given by a function. -/
theorem get?_map {α : Type} (key : α → String) (value : Value) {items : List α} {item : α}
    (member : item ∈ items) :
    Record.get? (items.map fun each => (key each, value)) (key item) = some value := by
  induction items with
  | nil => exact absurd member List.not_mem_nil
  | cons head tail inductionHypothesis =>
      rw [List.map_cons, get?_cons]
      by_cases same : key head = key item
      · rw [if_pos same]
      · rw [if_neg same]
        rcases List.mem_cons.1 member with rfl | inTail
        · exact absurd rfl same
        · exact inductionHypothesis inTail

/-- The lookup of a name in fields given by functions, followed by others. -/
theorem get?_map_append {α : Type} (key : α → String) (value : α → Value) (items : List α)
    (rest : Record) (name : String) :
    Record.get? (items.map (fun each => (key each, value each)) ++ rest) name =
      ((items.find? (key · == name)).map value).or (rest.get? name) := by
  induction items with
  | nil => rfl
  | cons head tail inductionHypothesis =>
      rw [List.map_cons, List.cons_append, get?_cons, List.find?_cons]
      by_cases same : key head = name
      · rw [if_pos same, beq_iff_eq.2 same]
        rfl
      · rw [if_neg same, beq_false_of_ne same]
        exact inductionHypothesis

theorem getD_of_get? {record : Record} {name : String} {value : Value}
    (found : record.get? name = some value) : record.getD name = value := by
  unfold getD
  rw [found]
  rfl

/-- What holds of null and of every value of a record holds of what is found in it. -/
theorem getD_of_all {holds : Value → Bool} (ofNull : holds .null = true) {record : Record}
    (ofAll : (record.all fun field => holds field.2) = true) (name : String) :
    holds (record.getD name) = true := by
  induction record with
  | nil => exact ofNull
  | cons field rest inductionHypothesis =>
      rw [List.all_cons, Bool.and_eq_true] at ofAll
      unfold getD
      rw [get?_cons]
      by_cases same : field.1 = name
      · rw [if_pos same]
        exact ofAll.1
      · rw [if_neg same]
        exact inductionHypothesis ofAll.2

theorem erase_append (record rest : Record) (name : String) :
    Record.erase (record ++ rest) name = record.erase name ++ Record.erase rest name :=
  List.filter_append ..

theorem erase_of_not_mem {record : Record} {name : String} (lacks : name ∉ record.names) :
    record.erase name = record := by
  unfold erase
  rw [List.filter_eq_self]
  intro field member
  have apart : field.1 ≠ name := by
    rintro rfl
    exact lacks (List.mem_map_of_mem member)
  simpa using apart

theorem has_erase_iff {record : Record} {name erased : String} :
    (record.erase erased).has name = true ↔ record.has name = true ∧ name ≠ erased := by
  unfold has erase
  rw [List.any_filter, List.any_eq_true, List.any_eq_true]
  constructor
  · rintro ⟨field, member, isField⟩
    obtain ⟨notErased, isNamed⟩ := Bool.and_eq_true_iff.1 isField
    rw [← beq_iff_eq.1 isNamed]
    exact ⟨⟨field, member, beq_self_eq_true field.1⟩, by simpa using notErased⟩
  · rintro ⟨⟨field, member, isNamed⟩, apart⟩
    rw [← beq_iff_eq.1 isNamed] at apart
    exact ⟨field, member, Bool.and_eq_true_iff.2 ⟨by simpa using apart, isNamed⟩⟩

theorem get?_erase_of_ne (record : Record) {name erased : String} (apart : name ≠ erased) :
    (record.erase erased).get? name = record.get? name := by
  induction record with
  | nil => rfl
  | cons field rest inductionHypothesis =>
      rw [erase] at inductionHypothesis ⊢
      by_cases isErased : field.1 = erased
      · have isOther : field.1 ≠ name := fun same => apart (same.symm.trans isErased)
        rw [List.filter_cons_of_neg (by simpa using isErased), inductionHypothesis, get?_cons,
          if_neg isOther]
      · rw [List.filter_cons_of_pos (by simpa using isErased), get?_cons, get?_cons,
          inductionHypothesis]

end RecordGraph.Record
