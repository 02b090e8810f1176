import RecordGraph.Http.Route
import RecordGraph.Proofs.Execution.Action
import RecordGraph.Proofs.Plan.Acceptance

/-!
Contract: how the planner of inserts fails.

Owns: `Result.Refuses` and its composition, the classes of errors in which a payload is refused, and
the payloads on which planning fails outside the taxonomy.
Does not own: which payloads are planned.

Every place of a payload where a record is expected has a check of its own, save the outermost one.
There a payload that is no object is walked through, so that its items are checked and it is not.
-/

namespace RecordGraph

/-- Whether errors of a class say that a payload may not be inserted. -/
def ErrorKind.isRefusal : ErrorKind → Bool
  | .notAllowed | .unknownRelation | .payload | .cyclicPayload => true
  | _ => false

/-- A client that sends what is refused is told so. -/
theorem ErrorKind.status_of_isRefusal {kind : ErrorKind} (refuses : kind.isRefusal = true) :
    kind.status = 400 := by
  cases kind <;> first | rfl | simp [isRefusal] at refuses

namespace Result

variable {α β : Type}

/-- Whether a computation fails with refusals only. -/
def Refuses (result : Result α) : Prop :=
  ∀ failure, result = .error failure → failure.kind.isRefusal = true

theorem Refuses.pure (value : α) : Refuses (Pure.pure value : Result α) := by
  intro failure impossible
  cases impossible

theorem Refuses.throw {failure : Error} (isRefusal : failure.kind.isRefusal = true) :
    Refuses (MonadExcept.throw failure : Result α) := by
  intro other failed
  cases failed
  exact isRefusal

theorem Refuses.of_ok {result : Result α} {value : α} (succeeded : result = .ok value) :
    Refuses result := by
  rw [succeeded]
  exact .pure value

/-- A later step is only taken with the value of an earlier one. -/
theorem Refuses.bind {step : Result α} {next : α → Result β} (first : Refuses step)
    (second : ∀ value, step = .ok value → Refuses (next value)) : Refuses (step >>= next) := by
  intro failure failed
  rcases bind_eq_error.1 failed with stepFailed | ⟨value, stepOk, nextFailed⟩
  · exact first failure stepFailed
  · exact second value stepOk failure nextFailed

theorem Refuses.mapM {step : α → Result β} {items : List α}
    (each : ∀ item ∈ items, Refuses (step item)) : Refuses (items.mapM step) := by
  intro failure failed
  obtain ⟨item, member, itemFailed⟩ := exists_of_mapM_eq_error failed
  exact each item member failure itemFailed

end Result

open Result (Refuses)

/-- A name that no relation of a registered entity has is refused. -/
theorem Registry.refuses_resolve {registry : Registry} {entity : Entity}
    (registered : registry.entity entity.name = .ok entity) (name : String) :
    Refuses (registry.resolve entity.name name) := by
  unfold resolve
  refine (Refuses.of_ok registered).bind fun found _ => ?_
  split
  · exact .pure _
  · exact .throw rfl

namespace InsertContext

variable {context : InsertContext} {plan : Planner} {entity : Entity}
  {entries : List RelationEntry}

/-! ## Parts of the walk -/

theorem refuses_openRecord (entity : Entity) (payload : Payload) (path : String) (remaining : Nat)
    (ancestors : List RecordKey) :
    Refuses (context.openRecord entity payload path remaining ancestors) := by
  cases payload with
  | scalar value => exact .throw rfl
  | list items => exact .throw rfl
  | again =>
      simp only [openRecord]
      split
      · exact .throw rfl
      · exact .throw rfl
  | object fields =>
      simp only [openRecord]
      split
      · exact .throw rfl
      · split
        · exact .pure _
        · split
          · exact .throw rfl
          · exact .pure _

theorem refuses_resolveEntries (registered : context.registry.entity entity.name = .ok entity)
    (path : String) (related : List (String × Payload)) :
    Refuses (context.resolveEntries entity path related) := by
  refine Refuses.mapM fun field _ => ?_
  refine (Registry.refuses_resolve registered field.1).bind fun relation _ => ?_
  refine Refuses.bind ?_ fun _ _ => .pure _
  unfold AllowList.checkPath
  split
  · exact .pure _
  · exact .throw rfl

theorem refuses_collectionItems (payload : Payload) (path : String) :
    Refuses (collectionItems payload path) := by
  unfold collectionItems
  split
  · exact .pure _
  · exact .pure _
  · exact .pure _
  · exact .pure _
  · exact .throw rfl

/-- Whether a planner of records of registered entities fails with refusals only. -/
def Planner.Refuses (registry : Registry) (plan : Planner) : Prop :=
  ∀ entity : Entity, registry.entity entity.name = .ok entity →
    ∀ (payload : Payload) (path : String) (inbound : List Backfill) (next : Nat),
      Result.Refuses (plan entity payload path inbound next)

/-- Whether the relation of an entry leads to a registered entity, through a known table if there is
one in between. -/
structure RelationEntry.Closed (registry : Registry) (entry : RelationEntry) : Prop where
  target : ∃ target, registry.entity entry.relation.target = .ok target
  through : entry.relation.kind = .manyToMany → ∃ through table,
    entry.relation.through = some through ∧ registry.table through.table = .ok table

theorem Resolved.closed {registry : Registry} (closed : registry.Closed) {path : String}
    {fields : List (String × Payload)} (resolved : Resolved registry entity path fields entries) :
    ∀ entry ∈ entries, RelationEntry.Closed registry entry := by
  induction resolved with
  | nil => exact fun _ member => absurd member List.not_mem_nil
  | column isColumn rest inductionHypothesis => exact inductionHypothesis
  | relation notColumn resolves rest inductionHypothesis =>
      rw [List.forall_mem_cons]
      exact ⟨⟨closed.target resolves, closed.through resolves⟩, inductionHypothesis⟩

theorem refuses_planOwners (refuses : plan.Refuses context.registry)
    (closed : ∀ entry ∈ entries, RelationEntry.Closed context.registry entry) :
    ∀ next, Refuses (context.planOwners plan next entries) := by
  induction entries with
  | nil => exact fun _ => .pure _
  | cons entry rest inductionHypothesis =>
      intro next
      rw [List.forall_mem_cons] at closed
      obtain ⟨target, found⟩ := closed.1.target
      have registered := Registry.entity_name found
      rw [planOwners]
      split
      · split
        · exact (inductionHypothesis closed.2 next).bind fun _ _ => .pure _
        · -- an object and an object inside itself are planned alike
          split
          · rw [found]
            refine (refuses target registered _ _ _ _).bind fun fragment _ => ?_
            exact (inductionHypothesis closed.2 _).bind fun _ _ => .pure _
          · rw [found]
            refine (refuses target registered _ _ _ _).bind fun fragment _ => ?_
            exact (inductionHypothesis closed.2 _).bind fun _ _ => .pure _
          · exact .throw rfl
      · exact inductionHypothesis closed.2 next

theorem refuses_planMembers (refuses : plan.Refuses context.registry) {entry : RelationEntry}
    (closed : RelationEntry.Closed context.registry entry) {target : Entity}
    (registered : context.registry.entity target.name = .ok target) (owner : Nat)
    (items : List Payload) :
    ∀ next, Refuses (context.planMembers plan entry target owner next items) := by
  induction items with
  | nil => exact fun _ => .pure _
  | cons item rest inductionHypothesis =>
      intro next
      rw [planMembers]
      split
      · rename_i isJoined
        refine (refuses target registered _ _ _ _).bind fun fragment _ => ?_
        obtain ⟨row, rowOk⟩ := joinRow_succeeds (closed.through isJoined) owner fragment.root
          (next + fragment.operations.length)
        refine (Refuses.of_ok rowOk).bind fun _ _ => ?_
        exact (inductionHypothesis _).bind fun _ _ => .pure _
      · refine (refuses target registered _ _ _ _).bind fun fragment _ => ?_
        exact (inductionHypothesis _).bind fun _ _ => .pure _

theorem refuses_planCollections (refuses : plan.Refuses context.registry)
    (closed : ∀ entry ∈ entries, RelationEntry.Closed context.registry entry) (owner : Nat) :
    ∀ next, Refuses (context.planCollections plan owner next entries) := by
  induction entries with
  | nil => exact fun _ => .pure _
  | cons entry rest inductionHypothesis =>
      intro next
      rw [List.forall_mem_cons] at closed
      obtain ⟨target, found⟩ := closed.1.target
      rw [planCollections]
      split
      · exact inductionHypothesis closed.2 next
      · refine (refuses_collectionItems _ _).bind fun items _ => ?_
        rw [found]
        refine (refuses_planMembers refuses closed.1 (Registry.entity_name found) owner items
          next).bind fun planned _ => ?_
        exact (inductionHypothesis closed.2 _).bind fun _ _ => .pure _

/-! ## Records and roots -/

/-- A record of a registered entity is planned or refused, however deep the payload is. -/
theorem refuses_planRecord (closed : context.registry.Closed) (remaining : Nat) :
    ∀ (conflict : Option ConflictPolicy) (ancestors : List RecordKey),
      Planner.Refuses context.registry (context.planRecord conflict remaining ancestors) := by
  induction remaining with
  | zero =>
      intro conflict ancestors entity registered payload path inbound next
      exact (refuses_openRecord entity payload path 0 ancestors).bind fun _ _ => .throw rfl
  | succ below inductionHypothesis =>
      intro conflict ancestors entity registered payload path inbound next
      rw [planRecord]
      refine (refuses_openRecord _ _ _ _ _).bind fun opened _ => ?_
      rcases opened with ⟨fields, key⟩
      simp only [List.partition_eq_filter_filter]
      refine (refuses_resolveEntries registered _ _).bind fun entries resolved => ?_
      have areClosed := (resolved_of_ok fields resolved).closed closed
      have refuses := inductionHypothesis none (key.toList ++ ancestors)
      refine (refuses_planOwners refuses areClosed next).bind fun owners _ => ?_
      exact (refuses_planCollections refuses areClosed _ _).bind fun _ _ => .pure _

theorem refuses_planRoots (closed : context.registry.Closed)
    (registered : context.registry.entity entity.name = .ok entity)
    (conflict : Option ConflictPolicy) (records : List Payload) :
    ∀ next, Refuses (context.planRoots entity conflict next records) := by
  induction records with
  | nil => exact fun _ => .pure _
  | cons record rest inductionHypothesis =>
      intro next
      have refuses := refuses_planRecord closed context.maxDepth conflict [] entity registered
      refine (refuses record "" [] next).bind fun fragment _ => ?_
      exact (inductionHypothesis _).bind fun _ _ => .pure _

end InsertContext

/-! ## Payloads -/

/-- Whether a payload is a scalar that is no text. -/
def Payload.isBare : Payload → Bool
  | .scalar (.text _) => false
  | .scalar _ => true
  | _ => false

theorem InsertPlan.rootRecords_eq_error_iff {payload : Payload} {failure : Error} :
    rootRecords payload = .error failure ↔
      payload.isBare = true ∧ failure = .foreign .notIterable := by
  cases payload with
  | scalar value =>
      cases value <;> simp [rootRecords, Payload.isBare, pure, Except.pure, throw, throwThe,
        MonadExceptOf.throw, eq_comm]
  | _ => simp [rootRecords, Payload.isBare, pure, Except.pure]

/-- Expressions that cannot be read are wrong in their syntax. -/
theorem AllowSource.kind_of_read_error {F : Type} {allow : AllowSource F} {failure : Error}
    (failed : allow.read = .error failure) : failure.kind = .syntaxError := by
  cases allow with
  | list allow => cases failed
  | expression source =>
      cases source with
      | absent => cases failed
      | tree ready => cases failed
      | text expression =>
          rcases Result.bind_eq_error.1 failed with failed | ⟨_, _, impossible⟩
          · change RelationTree.parse expression = .error failure at failed
            unfold RelationTree.parse at failed
            rcases Result.bind_eq_error.1 failed with failed | ⟨lexed, _, failed⟩
            · unfold Lexed.read at failed
              dsimp only at failed
              split at failed
              · cases failed
              · cases failed
                rfl
            · split at failed
              · cases failed
              · rename_i stopped _
                cases failed
                unfold ParseFailure.toError
                split <;> rfl
          · cases impossible

namespace InsertPlan

section Making

variable {registry : Registry} {entity : String} {root : Entity}

/-- Planning that gets as far as the records of a payload fails with refusals only. -/
theorem failure_of_make (closed : registry.Closed) (found : registry.entity entity = .ok root)
    {config : Config} {payload : Payload} {allow : AllowSource Filter}
    {conflict : Option ConflictPolicy} {failure : Error}
    (failed : make registry config entity payload allow conflict = .error failure) :
    (allow.read = .error failure ∧ failure.kind = .syntaxError) ∨
      failure.kind.isRefusal = true ∨
        (payload.isBare = true ∧ failure = .foreign .notIterable) := by
  rcases Result.bind_eq_error.1 failed with unread | ⟨allowed, _, failed⟩
  · exact Or.inl ⟨unread, AllowSource.kind_of_read_error unread⟩
  rcases Result.bind_eq_error.1 failed with unknown | ⟨other, isRoot, failed⟩
  · rw [found] at unknown
    cases unknown
  cases found.symm.trans isRoot
  rcases Result.bind_eq_error.1 failed with unlisted | ⟨⟨many, records⟩, _, failed⟩
  · exact Or.inr (Or.inr (rootRecords_eq_error_iff.1 unlisted))
  · have registered := Registry.entity_name found
    have refuses : Refuses (InsertContext.planRoots ⟨registry, allowed, config.maxPayloadDepth⟩
        root conflict 0 records) :=
      InsertContext.refuses_planRoots closed registered conflict records 0
    exact Or.inr (Or.inl (refuses.bind (fun _ _ => .pure _) failure failed))

/-- A scalar that is no text is not looked at. -/
theorem make_of_bare (found : registry.entity entity = .ok root) {allow : AllowSource Filter}
    {allowed : AllowList Filter} (isRead : allow.read = .ok allowed) {payload : Payload}
    (isBare : payload.isBare = true) (config : Config) (conflict : Option ConflictPolicy) :
    make registry config entity payload allow conflict = .error (.foreign .notIterable) := by
  have unlisted : rootRecords payload = .error (.foreign .notIterable) :=
    rootRecords_eq_error_iff.2 ⟨isBare, rfl⟩
  unfold make
  rw [isRead, found, unlisted]
  rfl

/-- A text is taken for the list of its characters, none of which is a record. -/
theorem make_of_text (found : registry.entity entity = .ok root) {allow : AllowSource Filter}
    {allowed : AllowList Filter} (isRead : allow.read = .ok allowed) (chars : String)
    (config : Config) (conflict : Option ConflictPolicy) :
    make registry config entity (.scalar (.text chars)) allow conflict =
      if chars.toList = [] then .ok { many := true }
      else .error (.expectedObject root.name "" (Value.text chars).kindName) := by
  have listed : rootRecords (.scalar (.text chars)) =
      .ok (true, chars.toList.map fun c => .scalar (.text (String.singleton c))) := rfl
  unfold make
  rw [isRead, found, listed]
  cases chars.toList with
  | nil =>
      rw [if_pos rfl]
      rfl
  | cons first rest =>
      rw [if_neg (List.cons_ne_nil first rest)]
      -- at the greatest depth a record is opened before it is too deep
      cases depth : config.maxPayloadDepth with
      | zero => rfl
      | succ below => rfl

end Making

end InsertPlan

namespace Http.Mount

variable {σ : Type} {mount : Mount σ} {body : Value} {failure : Error}

/-- A body that cannot be planned is answered before anything is asked of the database. -/
theorem create_of_unplanned
    (unplanned : InsertPlan.make mount.repository.registry mount.repository.config
      mount.repository.entity.name (.ofValue body) (.list mount.insertAllow) none = .error failure)
    (world : σ) : mount.create body world = (.error (.failed failure), world) := by
  have inserts : mount.repository.insertGraph (.ofValue body) (.list mount.insertAllow) none none
      world = (.error failure, world) := by
    unfold Repository.insertGraph
    refine Action.bind_of_error ?_
    rw [unplanned]
    rfl
  unfold create ofAction
  change ((mount.repository.insertGraph _ _ none none world).1.mapError Failure.failed,
    (mount.repository.insertGraph _ _ none none world).2) = _
  rw [inserts]
  rfl

end Http.Mount

/-! ## All payloads -/

/-- Planning for a registered entity of a frozen registry ends in a plan, with an allow-list that
cannot be read, or with a refusal, unless the payload is a scalar that is no text. That is not looked
at, and what fails is the walk through it. A text is taken for a list: one without characters is
planned, and every other one is refused. A body that cannot be planned is answered in the same way,
and nothing is asked of the database. -/
theorem InsertPlan.make_refuses_unless_bare {registry : Registry} (reachable : registry.Reachable)
    (frozen : registry.frozen = true) {entity : String} {root : Entity}
    (found : registry.entity entity = .ok root) (config : Config) (payload : Payload)
    (allow : AllowSource Filter) (conflict : Option ConflictPolicy) :
    (∀ failure, make registry config entity payload allow conflict = .error failure →
      (allow.read = .error failure ∧ failure.kind = .syntaxError) ∨
        failure.kind.isRefusal = true ∨
          (payload.isBare = true ∧ failure = .foreign .notIterable)) ∧
    (∀ allowed, allow.read = .ok allowed →
      (payload.isBare = true →
        make registry config entity payload allow conflict = .error (.foreign .notIterable)) ∧
      ∀ chars, payload = .scalar (.text chars) →
        make registry config entity payload allow conflict =
          if chars.toList = [] then .ok { many := true }
          else .error (.expectedObject root.name "" (Value.text chars).kindName)) ∧
    (∀ {σ : Type} (mount : Http.Mount σ) (body : Value) (failure : Error),
      mount.repository.registry = registry → mount.repository.entity = root →
        make registry mount.repository.config entity (.ofValue body) (.list mount.insertAllow)
            none = .error failure →
          (∀ world, mount.create body world = (.error (.failed failure), world)) ∧
            (failure.kind.status = 400 ∨
              (Payload.ofValue body).isBare = true ∧ failure = .foreign .notIterable)) := by
  have closed := reachable.closed frozen
  refine ⟨fun failure failed => failure_of_make closed found failed,
    fun allowed isRead => ⟨fun isBare => make_of_bare found isRead isBare config conflict, ?_⟩, ?_⟩
  · rintro chars rfl
    exact make_of_text found isRead chars config conflict
  · intro σ mount body failure sameRegistry sameEntity failed
    have unplanned : make mount.repository.registry mount.repository.config
        mount.repository.entity.name (.ofValue body) (.list mount.insertAllow) none =
          .error failure := by
      rw [sameRegistry, sameEntity, (Registry.entity_eq_ok found).2]
      exact failed
    refine ⟨Http.Mount.create_of_unplanned unplanned, ?_⟩
    rcases failure_of_make closed found failed with ⟨unread, _⟩ | refuses | bare
    · cases unread
    · exact Or.inl (ErrorKind.status_of_isRefusal refuses)
    · exact Or.inr bare

namespace Family

/-- A number that is sent in place of a person. -/
theorem number_not_looked_at :
    registry.Reachable ∧ registry.frozen = true ∧ registry.entity "Person" = .ok person ∧
      InsertPlan.make registry {} "Person" (.scalar (.int 5)) (.expression .absent) none =
        .error (.foreign .notIterable) := by
  have found : registry.entity "Person" = .ok person := rfl
  have planned := InsertPlan.make_refuses_unless_bare registry_reachable rfl found {}
    (.scalar (.int 5)) (.expression .absent) none
  exact ⟨registry_reachable, rfl, found, (planned.2.1 .unrestricted rfl).1 rfl⟩

/-- Of two payloads that are neither an object nor a list, one fails outside the taxonomy, and the
other one is planned. -/
theorem scalars_not_refused :
    (∃ failure, InsertPlan.make registry {} "Person" (.ofValue (.int 5)) (.expression .absent) none =
        .error failure ∧ failure.kind = .foreign) ∧
      InsertPlan.make registry {} "Person" (.ofValue (.text "")) (.expression .absent) none =
        .ok { many := true } :=
  ⟨⟨_, rfl, rfl⟩, rfl⟩

end Family

end RecordGraph
