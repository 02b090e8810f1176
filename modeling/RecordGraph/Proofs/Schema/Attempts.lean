import Mathlib.Data.List.Nodup
import RecordGraph.Proofs.Execution.Action
import RecordGraph.Proofs.Schema.Calls

/-!
Contract: registration in place, in any order.

Owns: calls as actions on a registry that is shared, what attempts in turn give and leave, and that
registrations of different entities do not depend on their order.
Does not own: what a registration checks.

An action keeps what it has done when it fails. That a call which fails leaves no trace therefore
depends on where it writes, which is after all of its checks.
-/

namespace RecordGraph.Registry

/-! ## Calls in place -/

/-- Registers an entity in a shared registry and gives it. -/
def registerInPlace (name : String) (relations : List Relation) : Action Registry Entity := do
  let registry ← get
  if registry.frozen then throw (.registryFrozen name)
  else if registry.contains name then throw (.alreadyRegistered name)
  else do
    let entity ← MonadExcept.ofExcept (admitEntity registry.schema name relations)
    modify fun shared => { shared with entities := shared.entities ++ [entity] }
    pure entity

/-- Freezes a shared registry. -/
def freezeInPlace : Action Registry Unit := do
  let registry ← get
  match registry.firstOpenTarget? with
  | some (entity, relation) =>
      throw (.unregisteredTarget (entity.name ++ "." ++ relation.name) relation.target)
  | none => modify fun shared => { shared with frozen := true }

/-- A call on a shared registry, which gives the entity that it has registered. -/
def Call.act : Call → Action Registry (Option Entity)
  | .register name relations => some <$> registerInPlace name relations
  | .freeze => (fun _ => none) <$> freezeInPlace

section

variable {registry : Registry} {name : String} {relations : List Relation}

theorem registerInPlace_of_frozen (isFrozen : registry.frozen = true) :
    registerInPlace name relations registry = (.error (.registryFrozen name), registry) := by
  unfold registerInPlace
  rw [Action.bind_of_ok (Action.get_apply registry), if_pos isFrozen]
  rfl

theorem registerInPlace_of_contained (isOpen : registry.frozen = false)
    (contained : registry.contains name = true) :
    registerInPlace name relations registry = (.error (.alreadyRegistered name), registry) := by
  unfold registerInPlace
  rw [Action.bind_of_ok (Action.get_apply registry), if_neg (by simp [isOpen]), if_pos contained]
  rfl

theorem registerInPlace_of_refused (isOpen : registry.frozen = false)
    (isNew : registry.contains name = false) {failure : Error}
    (refused : admitEntity registry.schema name relations = .error failure) :
    registerInPlace name relations registry = (.error failure, registry) := by
  have admits := Action.ofExcept_apply (admitEntity registry.schema name relations) registry
  rw [refused] at admits
  unfold registerInPlace
  rw [Action.bind_of_ok (Action.get_apply registry), if_neg (by simp [isOpen]),
    if_neg (by simp [isNew]), refused]
  exact Action.bind_of_error admits

theorem registerInPlace_of_admitted (isOpen : registry.frozen = false)
    (isNew : registry.contains name = false) {entity : Entity}
    (admitted : admitEntity registry.schema name relations = .ok entity) :
    registerInPlace name relations registry =
      (.ok entity, { registry with entities := registry.entities ++ [entity] }) := by
  have admits := Action.ofExcept_apply (admitEntity registry.schema name relations) registry
  rw [admitted] at admits
  unfold registerInPlace
  rw [Action.bind_of_ok (Action.get_apply registry), if_neg (by simp [isOpen]),
    if_neg (by simp [isNew]), admitted]
  exact Action.bind_of_ok admits

theorem freezeInPlace_of_open {entity : Entity} {relation : Relation}
    (isOpen : registry.firstOpenTarget? = some (entity, relation)) :
    freezeInPlace registry =
      (.error (.unregisteredTarget (entity.name ++ "." ++ relation.name) relation.target),
        registry) := by
  unfold freezeInPlace
  rw [Action.bind_of_ok (Action.get_apply registry), isOpen]
  rfl

theorem freezeInPlace_of_closed (isClosed : registry.firstOpenTarget? = none) :
    freezeInPlace registry = (.ok (), { registry with frozen := true }) := by
  unfold freezeInPlace
  rw [Action.bind_of_ok (Action.get_apply registry), isClosed]
  rfl

end

/-- All that a call in place does: it fails like the call and leaves the registry as it was, or it
leaves the registry that the call gives. -/
theorem act_cases (registry : Registry) (call : Call) :
    (∃ failure, call.act registry = (.error failure, registry) ∧
      registry.perform call = .error failure) ∨
    ∃ given left, call.act registry = (.ok given, left) ∧ registry.perform call = .ok left := by
  cases call with
  | register name relations =>
      simp only [Call.act, Action.map_apply, perform, Registry.register]
      by_cases isFrozen : registry.frozen = true
      · rw [registerInPlace_of_frozen isFrozen, if_pos isFrozen]
        exact .inl ⟨_, rfl, rfl⟩
      · have isOpen := Bool.eq_false_iff.2 isFrozen
        rw [if_neg isFrozen]
        by_cases contained : registry.contains name = true
        · rw [registerInPlace_of_contained isOpen contained, if_pos contained]
          exact .inl ⟨_, rfl, rfl⟩
        · have isNew := Bool.eq_false_iff.2 contained
          rw [if_neg contained]
          cases admitted : admitEntity registry.schema name relations with
          | error failure =>
              rw [registerInPlace_of_refused isOpen isNew admitted]
              exact .inl ⟨_, rfl, rfl⟩
          | ok entity =>
              rw [registerInPlace_of_admitted isOpen isNew admitted]
              exact .inr ⟨_, _, rfl, rfl⟩
  | freeze =>
      simp only [Call.act, Action.map_apply, perform, Registry.freeze]
      cases target : registry.firstOpenTarget? with
      | some target =>
          rw [freezeInPlace_of_open target]
          exact .inl ⟨_, rfl, rfl⟩
      | none =>
          rw [freezeInPlace_of_closed target]
          exact .inr ⟨_, _, rfl, rfl⟩

/-- A call gives what the call in place leaves, if that succeeds. -/
theorem perform_eq_act (registry : Registry) (call : Call) :
    registry.perform call = (call.act registry).1.map fun _ => (call.act registry).2 := by
  rcases act_cases registry call with ⟨_, ran, performed⟩ | ⟨_, _, ran, performed⟩
  · rw [ran, performed]
    rfl
  · rw [ran, performed]
    rfl

/-- A call that fails leaves the registry as it was. -/
theorem eq_of_act_failed {registry left : Registry} {call : Call} {failure : Error}
    (failed : call.act registry = (.error failure, left)) : left = registry := by
  rcases act_cases registry call with ⟨_, ran, _⟩ | ⟨_, _, ran, _⟩
  · exact (Prod.mk.inj (failed.symm.trans ran)).2
  · cases failed.symm.trans ran

/-- The registry that a call in place leaves is the one after the call. -/
theorem act_state (registry : Registry) (call : Call) :
    (call.act registry).2 = registry.after call := by
  unfold Registry.after
  rcases act_cases registry call with ⟨_, ran, performed⟩ | ⟨_, _, ran, performed⟩
  · rw [ran, performed]
  · rw [ran, performed]

/-! ## Attempts in turn -/

/-- What calls give, each on the registry that those before it leave, whether or not they fail. -/
def attempts (calls : List Call) : StateM Registry (List (Except Error (Option Entity))) :=
  calls.mapM fun call => call.act.run

theorem attempts_cons (call : Call) (rest : List Call) (registry : Registry) :
    attempts (call :: rest) registry =
      ((call.act registry).1 :: (attempts rest (call.act registry).2).1,
        (attempts rest (call.act registry).2).2) := by
  unfold attempts
  rw [List.mapM_cons]
  rfl

theorem attempts_state (calls : List Call) (registry : Registry) :
    (attempts calls registry).2 = registry.afterAll calls := by
  induction calls generalizing registry with
  | nil => rfl
  | cons call rest inductionHypothesis =>
      rw [attempts_cons, inductionHypothesis, act_state]
      rfl

/-! ## Frozen registries -/

/-- What a call gives on a frozen registry. -/
def Call.late : Call → Except Error (Option Entity)
  | .register name _ => .error (.registryFrozen name)
  | .freeze => .ok none

theorem act_of_frozen {registry : Registry} (isFrozen : registry.frozen = true)
    (isClosed : registry.firstOpenTarget? = none) (call : Call) :
    call.act registry = (call.late, registry) := by
  cases call with
  | register name relations =>
      rw [Call.act, Action.map_apply, registerInPlace_of_frozen isFrozen]
      rfl
  | freeze =>
      have isSame : { registry with frozen := true } = registry := by rw [← isFrozen]
      rw [Call.act, Action.map_apply, freezeInPlace_of_closed isClosed, isSame]
      rfl

theorem attempts_of_frozen {registry : Registry} (isFrozen : registry.frozen = true)
    (isClosed : registry.firstOpenTarget? = none) (calls : List Call) :
    attempts calls registry = (calls.map Call.late, registry) := by
  induction calls with
  | nil => rfl
  | cons call rest inductionHypothesis =>
      rw [attempts_cons, act_of_frozen isFrozen isClosed, inductionHypothesis]
      rfl

/-! ## Registrations of different entities -/

/-- A registry with further entities. -/
def extend (registry : Registry) (entities : List Entity) : Registry :=
  { registry with entities := registry.entities ++ entities }

theorem extend_nil (registry : Registry) : registry.extend [] = registry := by
  unfold extend
  rw [List.append_nil]

theorem extend_extend (registry : Registry) (entities further : List Entity) :
    (registry.extend entities).extend further = registry.extend (entities ++ further) := by
  unfold extend
  rw [List.append_assoc]

theorem contains_extend_iff {registry : Registry} {entities : List Entity} {name : String} :
    (registry.extend entities).contains name = true ↔
      registry.contains name = true ∨ ∃ entity ∈ entities, entity.name = name := by
  simp [contains, extend]

/-- The name and the relations of an entity that is to be registered. -/
abbrev Registration := String × List Relation

namespace Registration

def call (registration : Registration) : Call := .register registration.1 registration.2

/-- The entity that a registration makes of tables, whatever else is registered. -/
def entity? (schema : Schema) (registration : Registration) : Option Entity :=
  (admitEntity schema registration.1 registration.2).toOption

/-- What a registration gives that is the only one. -/
def alone (schema : Schema) (registration : Registration) : Except Error (Option Entity) :=
  (registration.call.act { schema }).1

theorem name_of_entity? {schema : Schema} {registration : Registration} {entity : Entity}
    (made : registration.entity? schema = some entity) : entity.name = registration.1 := by
  unfold entity? at made
  cases admitted : admitEntity schema registration.1 registration.2 with
  | error failure =>
      rw [admitted] at made
      cases made
  | ok other =>
      rw [admitted] at made
      cases made
      exact (admitEntity_eq_ok admitted).1

/-- A registration under a name that is not taken gives what it gives alone. -/
theorem act_of_new {registry : Registry} {registration : Registration}
    (isOpen : registry.frozen = false) (isNew : registry.contains registration.1 = false) :
    registration.call.act registry =
      (registration.alone registry.schema,
        registry.extend (registration.entity? registry.schema).toList) := by
  have startsOpen : ({ schema := registry.schema } : Registry).frozen = false := rfl
  have startsNew : ({ schema := registry.schema } : Registry).contains registration.1 = false := rfl
  unfold alone call entity?
  rw [Call.act, Action.map_apply, Action.map_apply]
  cases admitted : admitEntity registry.schema registration.1 registration.2 with
  | error failure =>
      rw [registerInPlace_of_refused isOpen isNew admitted,
        registerInPlace_of_refused startsOpen startsNew admitted]
      exact Prod.ext rfl registry.extend_nil.symm
  | ok entity =>
      rw [registerInPlace_of_admitted isOpen isNew admitted,
        registerInPlace_of_admitted startsOpen startsNew admitted]
      rfl

end Registration

/-- Registrations under different names that are not taken give what each gives alone, and add the
entities that they make. -/
theorem attempts_registrations {registry : Registry} {registrations : List Registration}
    (isOpen : registry.frozen = false) (distinct : (registrations.map Prod.fst).Nodup)
    (areNew : ∀ registration ∈ registrations, registry.contains registration.1 = false) :
    attempts (registrations.map Registration.call) registry =
      (registrations.map (Registration.alone registry.schema),
        registry.extend (registrations.filterMap (Registration.entity? registry.schema))) := by
  induction registrations generalizing registry with
  | nil => exact Prod.ext rfl registry.extend_nil.symm
  | cons registration rest inductionHypothesis =>
      rw [List.map_cons, List.nodup_cons] at distinct
      rw [List.forall_mem_cons] at areNew
      let made := (registration.entity? registry.schema).toList
      have stillNew : ∀ other ∈ rest, (registry.extend made).contains other.1 = false := by
        intro other member
        rw [Bool.eq_false_iff]
        intro contained
        rcases contains_extend_iff.1 contained with before | ⟨entity, isMade, isNamed⟩
        · rw [areNew.2 other member] at before
          cases before
        · rw [Registration.name_of_entity? (Option.mem_toList.1 isMade)] at isNamed
          exact distinct.1 (List.mem_map.2 ⟨other, member, isNamed.symm⟩)
      have ofRest : attempts (rest.map Registration.call) (registry.extend made) = _ :=
        inductionHypothesis isOpen distinct.2 stillNew
      rw [List.map_cons, attempts_cons, Registration.act_of_new isOpen areNew.1, ofRest,
        extend_extend, List.map_cons, List.filterMap_cons]
      cases isMade : registration.entity? registry.schema <;> simp [made, isMade, extend]

/-! ## Registries with the same entities -/

section

variable {registry other : Registry}

/-- In a registry without two entities of one name, an entity is found if it is there. -/
theorem entity_eq_ok_iff (distinct : (registry.entities.map (·.name)).Nodup) {name : String}
    {entity : Entity} :
    registry.entity name = .ok entity ↔ entity ∈ registry.entities ∧ entity.name = name := by
  constructor
  · exact entity_eq_ok
  · rintro ⟨member, rfl⟩
    have contained : registry.contains entity.name = true :=
      List.any_eq_true.2 ⟨entity, member, beq_self_eq_true _⟩
    obtain ⟨found, isFound⟩ := entity_of_contains contained
    obtain ⟨isEntity, sameName⟩ := entity_eq_ok isFound
    rw [isFound, List.inj_on_of_nodup_map distinct isEntity member sameName]

theorem entity_eq_error {name : String} {failure : Error}
    (missing : registry.entity name = .error failure) : failure = .unknownEntity name := by
  unfold Registry.entity at missing
  split at missing
  · cases missing
  · exact (Except.error.inj missing).symm

/-- Registries with the same entities find the same. -/
theorem entity_eq_of_perm (distinct : (registry.entities.map (·.name)).Nodup)
    (permuted : other.entities.Perm registry.entities) (name : String) :
    other.entity name = registry.entity name := by
  have otherDistinct : (other.entities.map (·.name)).Nodup :=
    (permuted.map (·.name)).nodup_iff.2 distinct
  have sameFound : ∀ entity, other.entity name = .ok entity ↔ registry.entity name = .ok entity := by
    intro entity
    rw [entity_eq_ok_iff otherDistinct, entity_eq_ok_iff distinct, permuted.mem_iff]
  cases found : registry.entity name with
  | ok entity => exact (sameFound entity).2 found
  | error failure =>
      cases otherFound : other.entity name with
      | ok entity => cases found.symm.trans ((sameFound entity).1 otherFound)
      | error otherFailure =>
          rw [entity_eq_error found, entity_eq_error otherFound]

/-- A registry can be frozen if it has the target of every relation. -/
theorem firstOpenTarget?_eq_none_iff :
    registry.firstOpenTarget? = none ↔ ∀ entity ∈ registry.entities,
      ∀ relation ∈ entity.relations, registry.contains relation.target = true := by
  simp [firstOpenTarget?, List.findSome?_eq_none_iff]

theorem freezes_iff_of_perm (permuted : other.entities.Perm registry.entities) :
    other.firstOpenTarget? = none ↔ registry.firstOpenTarget? = none := by
  have sameContained : ∀ name, other.contains name = registry.contains name := by
    intro name
    exact permuted.any_eq
  simp only [firstOpenTarget?_eq_none_iff, sameContained, permuted.mem_iff]

/-- Freezing in place succeeds if no target is open. -/
theorem freezeInPlace_isOk_iff :
    (freezeInPlace registry).1.isOk = true ↔ registry.firstOpenTarget? = none := by
  cases target : registry.firstOpenTarget? with
  | some target =>
      rw [freezeInPlace_of_open target]
      exact iff_of_false Bool.false_ne_true nofun
  | none =>
      rw [freezeInPlace_of_closed target]
      exact iff_of_true rfl rfl

end

/-- The registry that registrations leave, from tables alone. -/
def registered (schema : Schema) (registrations : List Registration) : Registry :=
  (attempts (registrations.map Registration.call) { schema }).2

/-- From tables alone, registrations of different entities give what each gives alone. So in any order
they give the same, leave the same entities under the same names, and can or cannot be frozen. Calls
in place are the calls of a registry. One that fails leaves the registry as it was, and once freezing
has succeeded, every registration fails and no call changes anything. -/
theorem registrations_independent {schema : Schema} {registrations order : List Registration}
    (distinct : (registrations.map Prod.fst).Nodup) (permuted : order.Perm registrations) :
    (attempts (order.map Registration.call) { schema }).1 =
        order.map (Registration.alone schema) ∧
    (registered schema order).entities.Perm (registered schema registrations).entities ∧
    (∀ name, (registered schema order).entity name =
      (registered schema registrations).entity name) ∧
    ((freezeInPlace (registered schema order)).1.isOk = true ↔
      (freezeInPlace (registered schema registrations)).1.isOk = true) ∧
    (∀ (registry : Registry) (call : Call),
      registry.perform call = (call.act registry).1.map (fun _ => (call.act registry).2) ∧
        ∀ failure left, call.act registry = (.error failure, left) → left = registry) ∧
    (∀ registry left : Registry, freezeInPlace registry = (.ok (), left) →
      left.frozen = true ∧ ∀ calls, attempts calls left = (calls.map Call.late, left)) := by
  have nothingTaken : ∀ names : List Registration, ∀ registration ∈ names,
      ({ schema } : Registry).contains registration.1 = false := fun _ _ _ => rfl
  have orderDistinct : (order.map Prod.fst).Nodup := (permuted.map Prod.fst).nodup_iff.2 distinct
  have ofOrder : attempts (order.map Registration.call) { schema } = _ :=
    attempts_registrations rfl orderDistinct (nothingTaken order)
  have ofFirst : attempts (registrations.map Registration.call) { schema } = _ :=
    attempts_registrations rfl distinct (nothingTaken registrations)
  have samePerm : (registered schema order).entities.Perm
      (registered schema registrations).entities := by
    unfold registered
    rw [ofOrder, ofFirst]
    exact permuted.filterMap _
  have distinctEntities : ((registered schema registrations).entities.map (·.name)).Nodup := by
    unfold registered
    rw [attempts_state]
    exact (Reachable.afterAll _ (.start schema)).consistent.distinct
  refine ⟨by rw [ofOrder], samePerm, entity_eq_of_perm distinctEntities samePerm, ?_, ?_, ?_⟩
  · rw [freezeInPlace_isOk_iff, freezeInPlace_isOk_iff]
    exact freezes_iff_of_perm samePerm
  · intro registry call
    exact ⟨perform_eq_act registry call, fun _ _ => eq_of_act_failed⟩
  · intro registry left froze
    cases target : registry.firstOpenTarget? with
    | some target =>
        rw [freezeInPlace_of_open target] at froze
        cases froze
    | none =>
        rw [freezeInPlace_of_closed target] at froze
        cases froze
        exact ⟨rfl, attempts_of_frozen rfl target⟩

end RecordGraph.Registry

/-! ## A family, registered backwards -/

namespace RecordGraph.Family

open Registry

def registrations : List Registration :=
  [("Person", [parent, children, tags]), ("Ghost", []), ("Tag", [])]

/-- A person is registered before the tags that it refers to, or after them. An entity without a
table is refused in either order. -/
theorem registered_backwards :
    (registrations.map Prod.fst).Nodup ∧ registrations.reverse.Perm registrations ∧
      (attempts (registrations.reverse.map Registration.call) { schema }).1 =
        [.ok (some tag), .error (.unknownTable .entity "Ghost"), .ok (some person)] ∧
      (registered schema registrations.reverse).entity "Person" = .ok person ∧
      (freezeInPlace (registered schema registrations.reverse)).1.isOk = true := by
  have distinct : (registrations.map Prod.fst).Nodup := by decide
  have permuted := registrations.reverse_perm
  obtain ⟨gives, _, finds, freezes, _⟩ := @registrations_independent schema _ _ distinct permuted
  refine ⟨distinct, permuted, gives.trans rfl, (finds "Person").trans rfl, freezes.2 rfl⟩

end RecordGraph.Family
