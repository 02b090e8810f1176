import RecordGraph.Proofs.Http.Keys
import RecordGraph.Proofs.Http.Usable
import RecordGraph.Proofs.Repository.Unkeyed
import RecordGraph.Proofs.Text.Spelling

/-!
Contract: which keys the ids in bodies are read as.

Owns: `Names` and `Misreads`, when an id is read as a key that it names, and which row it relates.
Does not own: ids in paths, and what relating a row changes.

An id is any value of a document. Numbers lose their fraction where the key is an integer, and all
values are turned into texts where it is a text.
-/

namespace RecordGraph

namespace Binary64

/-- A double that compares as equal to some integer has no fraction. -/
theorem toInt?_isSome_of_compareInt? {number : Binary64} {whole : Int}
    (isSame : number.compareInt? whole = some .eq) : number.toInt?.isSome = true := by
  cases number with
  | nan => cases isSame
  | infinite negative => cases negative <;> cases isSame
  | finite negative significand exponent =>
      have isEqual := Option.some.inj isSame
      unfold compareQuotients signedQuotient at isEqual
      unfold toInt?
      rw [compare_eq_iff_eq] at isEqual
      dsimp only at isEqual ⊢
      generalize (quotient significand exponent).1 = top at isEqual ⊢
      generalize (quotient significand exponent).2 = bottom at isEqual ⊢
      have divides : (bottom : Int) ∣ top := by
        have dividesWhole : (bottom : Int) ∣ whole * bottom := Int.dvd_mul_left whole bottom
        rw [← isEqual, Int.natCast_one, Int.mul_one] at dividesWhole
        cases negative with
        | false => exact dividesWhole
        | true => exact Int.dvd_neg.1 dividesWhole
      rw [if_pos (Nat.mod_eq_zero_of_dvd (Int.natCast_dvd_natCast.1 divides))]
      rfl

theorem truncate?_of_toInt? {number : Binary64} {whole : Int}
    (isWhole : number.toInt? = some whole) : number.truncate? = some whole := by
  cases number with
  | nan => cases isWhole
  | infinite negative => cases isWhole
  | finite negative significand exponent =>
      unfold toInt? at isWhole
      dsimp only at isWhole
      split at isWhole
      · exact isWhole
      · cases isWhole

end Binary64

namespace Http

open RecordGraph.Text

/-! ## Names of keys -/

def HoldsIntegers (type : ColumnType) : Prop := type = .integer ∨ type = .bigInteger

/-- Whether a value is a number, truth values included. -/
def IsNumber : Value → Prop
  | .bool _ | .int _ | .float _ => True
  | _ => False

/-- The key that a value names: a number one that equals it, a text the integer that it spells, or
itself if the key is a text. -/
inductive Names : ColumnType → Value → Value → Prop where
  | number {type : ColumnType} {raw key : Value} (isNumber : IsNumber raw)
      (isSame : raw.same key = true) : Names type raw key
  | numeral {type : ColumnType} (isInteger : HoldsIntegers type) {text : String} {number : Int}
      (isNumeral : IsNumeral text.toList number) : Names type (.text text) (.int number)
  | text (chars : String) : Names .string (.text chars) (.text chars)

/-- The values that name no key and are not turned down: as integers the doubles with a fraction and
those that are infinite, as texts everything that has a text and is none. -/
inductive Misreads : ColumnType → Value → Prop where
  | fraction {type : ColumnType} (isInteger : HoldsIntegers type) {negative : Bool}
      {significand : Nat} {exponent : Int}
      (hasFraction : (Binary64.finite negative significand exponent).toInt? = none) :
      Misreads type (.float (.finite negative significand exponent))
  | infinite {type : ColumnType} (isInteger : HoldsIntegers type) (negative : Bool) :
      Misreads type (.float (.infinite negative))
  | shown {raw : Value} (notText : ∀ chars, raw ≠ .text chars)
      (isDisplayed : raw.isDisplayed = true) : Misreads .string raw

/-- Whether a value is read as a key that it names, or turned down as the key of no row. -/
def ReadsNamed (entity : Entity) (raw : Value) : Prop :=
  readKey entity raw = .error (.rejected (.missing entity.name)) ∨
    ∃ key, readKey entity raw = .ok key ∧ Names entity.key.type raw key

section Reading

variable {entity : Entity} {raw : Value}

theorem keyValue_of_integers (isInteger : HoldsIntegers entity.key.type) :
    keyValue entity.key raw = integerKey raw := by
  rcases isInteger with isType | isType
  · rw [keyValue, isType]
  · rw [keyValue, isType]

theorem readsNamed_of_none (reads : keyValue entity.key raw = .ok none) :
    ReadsNamed entity raw :=
  .inl (readKey_of_none reads)

theorem readsNamed_of_some {key : Value} (reads : keyValue entity.key raw = .ok (some key)) :
    ReadsNamed entity raw ↔ Names entity.key.type raw key := by
  have isRead := readKey_of_some reads
  constructor
  · rintro (isMissing | ⟨other, isOther, names⟩)
    · cases isRead.symm.trans isMissing
    · cases isRead.symm.trans isOther
      exact names
  · exact fun names => .inr ⟨key, isRead, names⟩

/-- A double names an integer key if and only if it has no fraction. -/
theorem names_truncated_iff {type : ColumnType} {number : Binary64} {key : Int}
    (isKey : number.truncate? = some key) :
    Names type (.float number) (.int key) ↔ number.toInt? ≠ none := by
  have sameIff : (Value.float number).same (.int key) = true ↔
      number.compareInt? key = some .eq := by
    rw [Value.same_of_isKey rfl]
    exact beq_iff_eq
  constructor
  · intro names
    cases names with
    | number _ isSame =>
        have isWhole := Binary64.toInt?_isSome_of_compareInt? (sameIff.1 isSame)
        exact Option.isSome_iff_ne_none.1 isWhole
  · intro isWhole
    obtain ⟨whole, isWhole⟩ := Option.ne_none_iff_exists'.1 isWhole
    cases isKey.symm.trans (Binary64.truncate?_of_toInt? isWhole)
    refine .number trivial ?_
    rw [sameIff, Value.compareInt?_eq_iff]
    exact (Binary64.toInt?_eq_some isWhole).1

theorem HoldsIntegers.ne_string {type : ColumnType} (isInteger : HoldsIntegers type) :
    type ≠ .string := by
  rcases isInteger with rfl | rfl <;> exact nofun

/-- Only doubles are misread as integers. -/
theorem not_misreads {type : ColumnType} (isInteger : HoldsIntegers type)
    (noDouble : ∀ number, raw ≠ .float number) : ¬Misreads type raw := by
  intro misreads
  cases misreads with
  | fraction | infinite => exact noDouble _ rfl
  | shown => exact isInteger.ne_string rfl

/-- An integer key is read as one that is named, unless it is read from a double that has a fraction
or is infinite. -/
theorem readsNamed_integer_iff (isInteger : HoldsIntegers entity.key.type) :
    ReadsNamed entity raw ↔ ¬Misreads entity.key.type raw := by
  have reads := @keyValue_of_integers entity raw isInteger
  cases raw with
  | null | list items | object fields =>
      exact iff_of_true (readsNamed_of_none reads) (not_misreads isInteger nofun)
  | bool flag | int number =>
      refine iff_of_true ((readsNamed_of_some reads).2 ?_) (not_misreads isInteger nofun)
      refine .number trivial ?_
      rw [Value.same_of_isKey rfl]
      exact beq_self_eq_true (_ : Int)
  | text chars =>
      refine iff_of_true ?_ (not_misreads isInteger nofun)
      cases isRead : readInt chars with
      | none =>
          apply readsNamed_of_none
          rw [reads, integerKey, isRead]
          rfl
      | some number =>
          have readsNumber : keyValue entity.key (.text chars) = .ok (some (.int number)) := by
            rw [reads, integerKey, isRead]
            rfl
          rw [readsNamed_of_some readsNumber]
          exact .numeral isInteger (readInt_eq_some_iff.1 isRead)
  | float number =>
      cases number with
      | nan =>
          refine iff_of_true (readsNamed_of_none reads) fun misreads => ?_
          generalize entity.key.type = type at isInteger misreads
          cases misreads
          exact isInteger.ne_string rfl
      | infinite negative =>
          have failing : readKey entity (.float (.infinite negative)) =
              .error (.failed (.foreign .integerOverflow)) := by
            unfold readKey
            rw [reads]
            rfl
          refine iff_of_false ?_ (not_not_intro (.infinite isInteger negative))
          rintro (isMissing | ⟨_, isRead, _⟩)
          · cases failing.symm.trans isMissing
          · cases failing.symm.trans isRead
      | finite negative significand exponent =>
          rw [readsNamed_of_some reads, names_truncated_iff rfl]
          constructor
          · intro isWhole misreads
            generalize entity.key.type = type at isInteger misreads
            cases misreads with
            | fraction _ hasFraction => exact isWhole hasFraction
            | shown => exact isInteger.ne_string rfl
          · exact fun notMisread hasFraction => notMisread (.fraction isInteger hasFraction)

/-- A number is no text. -/
theorem not_same_text {raw : Value} (isNumber : IsNumber raw) (chars : String) :
    raw.same (.text chars) = false := by
  cases raw with
  | bool flag | int number | float number =>
      rw [Value.same_of_isKey rfl]
      rfl
  | _ => exact isNumber.elim

/-- A text key is read as one that is named, unless it is read from what is no text. -/
theorem readsNamed_string_iff (isString : entity.key.type = .string) :
    ReadsNamed entity raw ↔ ¬Misreads entity.key.type raw := by
  have reads : keyValue entity.key raw =
      .ok (if raw.isDisplayed then some (.text raw.display) else none) := by
    rw [keyValue, isString]
    rfl
  by_cases isText : ∃ chars, raw = .text chars
  · obtain ⟨chars, rfl⟩ := isText
    have names : Names entity.key.type (.text chars) (.text chars) := by
      rw [isString]
      exact .text chars
    refine iff_of_true ((readsNamed_of_some reads).2 names) fun misreads => ?_
    generalize entity.key.type = type at misreads
    cases misreads with
    | shown notText => exact notText chars rfl
  · have notText : ∀ chars, raw ≠ .text chars := fun chars same => isText ⟨chars, same⟩
    by_cases isDisplayed : raw.isDisplayed = true
    · rw [if_pos isDisplayed] at reads
      rw [readsNamed_of_some reads, isString]
      refine iff_of_false (fun names => ?_) (not_not_intro (.shown notText isDisplayed))
      generalize isKey : Value.text raw.display = key at names
      cases names with
      | number isNumber isSame =>
          rw [← isKey, not_same_text isNumber] at isSame
          cases isSame
      | numeral => exact notText _ rfl
      | text => exact notText _ rfl
    · rw [if_neg isDisplayed] at reads
      refine iff_of_true (readsNamed_of_none reads) fun misreads => ?_
      generalize entity.key.type = type at isString misreads
      cases misreads with
      | fraction isInteger | infinite isInteger => exact isInteger.ne_string isString
      | shown _ displayed => exact isDisplayed displayed

end Reading

/-! ## Requests that relate a row -/

namespace Handler

variable {σ α β : Type} {before after : σ}

/-- A composed handler succeeds if both of its parts do. -/
theorem bind_eq_ok {handler : Handler σ α} {next : α → Handler σ β} {value : β} :
    (handler >>= next) before = (.ok value, after) ↔
      ∃ first middle, handler before = (.ok first, middle) ∧
        next first middle = (.ok value, after) := by
  change ExceptT.bindCont next (handler before).1 (handler before).2 = _ ↔ _
  cases ran : handler before with
  | mk result middle =>
      cases result with
      | ok first =>
          constructor
          · exact fun continued => ⟨first, middle, rfl, continued⟩
          · rintro ⟨_, _, same, continued⟩
            cases same
            exact continued
      | error failure =>
          refine iff_of_false nofun ?_
          rintro ⟨_, _, impossible, _⟩
          cases impossible

theorem ofReading_eq_ok {reading : Except Failure α} {value : α} :
    (ofReading reading : Handler σ α) before = (.ok value, after) ↔
      reading = .ok value ∧ before = after := by
  rw [← Prod.mk.injEq]
  cases reading <;> exact Iff.rfl

theorem ofAction_eq_ok {action : Action σ α} {value : α} :
    ofAction action before = (.ok value, after) ↔ action before = (.ok value, after) := by
  change ((action before).1.mapError Failure.failed, (action before).2) = _ ↔ _
  cases ran : action before with
  | mk result middle =>
      cases result with
      | ok given =>
          show (Except.ok given, middle) = (Except.ok value, after) ↔ _
          rw [Prod.mk.injEq, Prod.mk.injEq, Except.ok.injEq, Except.ok.injEq]
      | error failure => exact iff_of_false nofun nofun

theorem ofResult_eq_ok {result : Result α} {value : α} :
    (ofResult result : Handler σ α) before = (.ok value, after) ↔
      result = .ok value ∧ before = after := by
  unfold ofResult
  rw [ofAction_eq_ok, Action.ofExcept_eq_ok]

theorem orMissing_eq_ok {what : String} {found : Option α} {value : α} :
    (orMissing what found : Handler σ α) before = (.ok value, after) ↔
      found = some value ∧ before = after := by
  cases found with
  | none => exact iff_of_false nofun fun impossible => nomatch impossible.1
  | some result =>
      change (Except.ok result, before) = (.ok value, after) ↔ _
      rw [Prod.mk.injEq, Except.ok.injEq, Option.some_inj]

end Handler

namespace Mount

variable {σ : Type} {mount : Mount (Workplace σ)} {before after : Workplace σ}

/-- A request that relates a row has read its key from the id, and has related the row with that
key. -/
theorem relate_eq_ok {segment relation : String} {body : Record} {value : Value}
    (ran : mount.relate segment relation body before = (.ok value, after)) :
    ∃ raw query key record, body.get? "id" = some raw ∧
      RelatedQuery.make mount.repository query.owner relation = .ok query ∧
      readKey mount.entity (.text segment) = .ok query.owner ∧
      readKey query.target raw = .ok key ∧
      query.relate key before = (.ok (some record), after) ∧ value = .object record := by
  unfold relate at ran
  obtain ⟨_, _, allowed, ran⟩ := Handler.bind_eq_ok.1 ran
  obtain ⟨_, rfl⟩ := Handler.ofResult_eq_ok.1 allowed
  obtain ⟨target, _, targeted, ran⟩ := Handler.bind_eq_ok.1 ran
  obtain ⟨isTarget, rfl⟩ := Handler.ofResult_eq_ok.1 targeted
  cases isId : body.get? "id" with
  | none =>
      rw [isId] at ran
      cases ran
  | some raw =>
      rw [isId] at ran
      obtain ⟨query, _, queried, ran⟩ := Handler.bind_eq_ok.1 ran
      obtain ⟨owner, _, owned, queried⟩ := Handler.bind_eq_ok.1 queried
      obtain ⟨isOwner, rfl⟩ := Handler.ofReading_eq_ok.1 owned
      obtain ⟨isMade, rfl⟩ := Handler.ofResult_eq_ok.1 queried
      obtain ⟨key, _, keyed, ran⟩ := Handler.bind_eq_ok.1 ran
      obtain ⟨isKey, rfl⟩ := Handler.ofReading_eq_ok.1 keyed
      obtain ⟨result, _, related, ran⟩ := Handler.bind_eq_ok.1 ran
      obtain ⟨record, _, found, ran⟩ := Handler.bind_eq_ok.1 ran
      obtain ⟨rfl, rfl⟩ := Handler.orMissing_eq_ok.1 found
      cases ran
      obtain ⟨_, rfl, resolves, isEntity⟩ := RelatedQuery.make_eq_ok isMade
      have sameTarget : query.target = target := by
        obtain ⟨_, resolved, isFound⟩ := Result.bind_eq_ok.1 isTarget
        cases resolves.symm.trans resolved
        cases isEntity.symm.trans isFound
        rfl
      rw [← sameTarget] at isKey
      exact ⟨raw, query, key, record, rfl, isMade, isOwner, isKey,
        Handler.ofAction_eq_ok.1 related, rfl⟩

end Mount

open Database

/-- A request that relates a row of an entity by an id in its body, and what it meets: a mount over
a database that obeys its constraints. -/
structure RelateRequest (entity : Entity) (raw : Value) where
  registry : Registry
  reachable : registry.Reachable
  name : String
  config : Config
  venue : Venue
  mount : Mount (Workplace Database)
  isMade : Repository.makeAt venue registry name config control session = .ok mount.repository
  relation : String
  leads : ∀ query : RelatedQuery (Workplace Database),
    RelatedQuery.make mount.repository query.owner relation = .ok query → query.target = entity
  segment : String
  body : Record
  hasId : body.get? "id" = some raw
  workplace : Workplace Database
  ready : venue.Ready control workplace
  sound : workplace.world.world.Sound registry.schema

namespace RelateRequest

variable {entity : Entity} {raw : Value}

def run (request : RelateRequest entity raw) : Except Failure Value × Workplace Database :=
  request.mount.relate request.segment request.relation request.body request.workplace

/-- Whether a request that succeeds has related the stored row with a key that the id names, and
answers with it. -/
def RelatesNamed (request : RelateRequest entity raw) : Prop :=
  ∀ value, request.run.1 = .ok value →
    ∃ query key record, Names entity.key.type raw key ∧
      entity.IsStored (request.venue.data transactional request.workplace) key ∧
      RelatedQuery.make request.mount.repository query.owner request.relation = .ok query ∧
      query.relate key request.workplace = (.ok (some record), request.run.2) ∧
      value = .object record

theorem relatesNamed (request : RelateRequest entity raw) (reads : ReadsNamed entity raw) :
    request.RelatesNamed := by
  intro value isValue
  have ran : request.mount.relate request.segment request.relation request.body
      request.workplace = (.ok value, request.run.2) := Prod.ext isValue rfl
  obtain ⟨given, query, key, record, isGiven, isMade, _, isKey, related, rfl⟩ :=
    Mount.relate_eq_ok ran
  cases isGiven.symm.trans request.hasId
  have isTarget := request.leads query isMade
  obtain isMissing | ⟨named, isNamed, names⟩ := reads
  · rw [isTarget, isMissing] at isKey
    cases isKey
  · rw [isTarget] at isKey
    cases isKey.symm.trans isNamed
    obtain ⟨_, owner, isOwner, isRepository⟩ := Repository.makeAt_eq_ok request.isMade
    obtain ⟨sameRepository, _, _, isEntity⟩ := RelatedQuery.make_eq_ok isMade
    have isOver := sameRepository.trans isRepository
    have consistent := request.reachable.consistent
    rw [isRepository] at isEntity
    have found := (RelatedQuery.relate_eq_ok consistent (Registry.entity_name isOwner) isEntity
      isOver request.ready (RelatedCall.sound_data request.ready request.sound) related).1
    have isStored : query.target.IsStored
        (request.venue.data transactional request.workplace) key := by
      apply Classical.byContradiction
      intro missing
      cases found.2 (.inl (.inr missing))
    rw [isTarget] at isStored
    exact ⟨query, key, record, names, isStored, isMade, related, rfl⟩

end RelateRequest

/-- An id is read as a key that it names, or turned down as the key of no row, if and only if it is
none that is misread. Then a request that relates a row by the id relates the stored row with a key
that the id names, or none. -/
theorem ids_name_rows {entity : Entity}
    (isHandled : HoldsIntegers entity.key.type ∨ entity.key.type = .string) (raw : Value) :
    (ReadsNamed entity raw ↔ ¬Misreads entity.key.type raw) ∧
      (¬Misreads entity.key.type raw →
        ∀ request : RelateRequest entity raw, request.RelatesNamed) := by
  have named : ReadsNamed entity raw ↔ ¬Misreads entity.key.type raw := by
    rcases isHandled with isInteger | isString
    · exact readsNamed_integer_iff isInteger
    · exact readsNamed_string_iff isString
  exact ⟨named, fun notMisread request => request.relatesNamed (named.2 notMisread)⟩

end Http

/-! ## A line without a purchase -/

namespace Purchases

open Database Http Sql

/-- A line that belongs to no purchase yet. -/
def loose : StoredRow where
  number := 1
  cells := [("id", .int 1), ("purchase_ref", .null)]

def looseStore : Store where
  tables := [
    { table := purchaseTable, rows := [referred, unreferred] },
    { table := lineTable, rows := [loose] }, { table := parcelTable }]
  lastNumber := 1

theorem looseStore_sound : SoundTables schema looseStore.tables := by
  have purchases : Insert.insertAll ⟨purchaseTable, [], .nothing, false⟩ (Store.empty schema)
      [[("ref", .text "r1")], [("ref", .null)]] = .ok (purchased, [referred, unreferred]) := rfl
  have entries : Insert.insertAll ⟨lineTable, [], .nothing, false⟩ purchased
      [[("purchase_ref", .null)]] = .ok (looseStore, [loose]) := rfl
  have isPurchase : schema.table? purchaseTable.name = some purchaseTable := rfl
  have isLine : schema.table? lineTable.name = some lineTable := rfl
  exact Insert.sound_insertAll isLine
    (Insert.sound_insertAll isPurchase (Store.sound_empty schema) purchases) entries

def mount : Mount (Workplace Database) where
  path := "/purchases"
  repository := purchases
  insertAllow := .unrestricted
  eagerAllow := .unrestricted

/-- Relates a line of an id to the first purchase. -/
def relating (raw : Value) : RelateRequest line raw where
  registry := registry
  reachable := registry_reachable
  name := "purchase"
  config := {}
  venue := .own
  mount := mount
  isMade := purchases_made
  relation := "lines"
  leads := by
    intro query isMade
    obtain ⟨_, _, resolves, isTarget⟩ := RelatedQuery.make_eq_ok isMade
    have isLines : registry.resolve "purchase" "lines" = .ok lines := rfl
    have isRelation : lines = query.relation := Except.ok.inj (isLines.symm.trans resolves)
    rw [← isRelation] at isTarget
    exact (Except.ok.inj isTarget).symm
  segment := "1"
  body := [("id", raw)]
  hasId := rfl
  workplace := { world := { world := { store := looseStore } }, holdsSession := false }
  ready := rfl
  sound := { tables := looseStore_sound, saved := nofun }

theorem line_holdsIntegers : HoldsIntegers line.key.type := .inl rfl

/-- The line is related by its number. -/
theorem line_related_by_number :
    HoldsIntegers line.key.type ∧ ReadsNamed line (.int 1) ∧
      (relating (.int 1)).RelatesNamed ∧ (relating (.int 1)).run.1.isOk = true := by
  have notMisread : ¬Misreads line.key.type (.int 1) := not_misreads line_holdsIntegers nofun
  obtain ⟨named, related⟩ := ids_name_rows (.inl line_holdsIntegers) (.int 1)
  exact ⟨line_holdsIntegers, named.2 notMisread, related notMisread (relating (.int 1)),
    by decide +kernel⟩

/-- The double 1.5. -/
def oneAndAHalf : Binary64 := .finite false 6755399441055744 (-52)

/-- The line with the number 1 is related by the id 1.5. An infinite id is not turned down, and null
is read as the key of a row that is called None. -/
theorem line_related_by_fraction :
    readKey line (.float oneAndAHalf) = .ok (.int 1) ∧ ¬ReadsNamed line (.float oneAndAHalf) ∧
      (relating (.float oneAndAHalf)).run.1.isOk = true ∧
      ((lineTable.among looseStore.tables).rows.map
        fun row => row.cell "purchase_ref" == .null) = [true] ∧
      ((lineTable.among (Venue.own.data transactional (relating (.float oneAndAHalf)).run.2)).rows.map
        fun row => row.cell "purchase_ref" == .text "r1") = [true] ∧
      readKey line (.float (.infinite false)) = .error (.failed (.foreign .integerOverflow)) ∧
      ¬ReadsNamed line (.float (.infinite false)) ∧
      readKey Customers.customer .null = .ok (.text "None") ∧
      ¬ReadsNamed Customers.customer .null := by
  have notNamed : ∀ raw, Misreads line.key.type raw → ¬ReadsNamed line raw :=
    fun raw misreads reads => (readsNamed_integer_iff line_holdsIntegers).1 reads misreads
  refine ⟨rfl, notNamed _ (.fraction line_holdsIntegers rfl), by decide +kernel,
    by decide +kernel, by decide +kernel, rfl, notNamed _ (.infinite line_holdsIntegers false),
    rfl, ?_⟩
  intro reads
  exact (readsNamed_string_iff rfl).1 reads (.shown nofun rfl)

end Purchases

end RecordGraph
