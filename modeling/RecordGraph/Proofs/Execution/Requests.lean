import RecordGraph.Proofs.Execution.Unit

/-!
Contract: what a unit of work asks of a session, step by step and whatever the answers.

Owns: `Request`, `Traced` worlds, the requests of entering and of leaving a unit of work, and `Body`.
Does not own: which of these requests there should be.

Nothing is assumed of the session here. Each of its steps may fail in any way, and may or may not
leave a transaction open.
-/

namespace RecordGraph

/-! ## Traces -/

/-- What is asked of a session, or of the factory that gives one. -/
inductive Move where
  | create (gave : Bool)
  | begin
  | commit
  | rollback
  | close
deriving DecidableEq, Repr

/-- A request, how it failed if it did, and the world that it left. -/
structure Request (σ : Type) where
  move : Move
  failure : Option Error
  after : σ

/-- A world with the requests made in it. -/
structure Traced (σ : Type) where
  world : σ
  requests : List (Request σ) := []

/-- The requests of one kind. -/
def ofMove {σ : Type} (move : Move) (requests : List (Request σ)) : List (Request σ) :=
  requests.filter fun request => request.move = move

/-- How a result failed, if it did. -/
def failure? {α : Type} : Except Error α → Option Error
  | .ok _ => none
  | .error failure => some failure

/-- Whether a factory gave a session. -/
def gave : Except Error Bool → Bool
  | .ok given => given
  | .error _ => false

/-- An action that is noted as a request. -/
def Traced.asking {σ α : Type} (move : Except Error α → Move) (action : Action σ α) :
    Action (Traced σ) α :=
  fun state => ((action state.world).1, {
    world := (action state.world).2
    requests := state.requests ++
      [⟨move (action state.world).1, failure? (action state.world).1, (action state.world).2⟩] })

/-- Transaction control that notes what it is asked for. -/
def SessionControl.traced {σ : Type} (control : SessionControl σ) : SessionControl (Traced σ) where
  create := Traced.asking (fun result => .create (gave result)) control.create
  inTransaction state := control.inTransaction state.world
  begin := Traced.asking (fun _ => .begin) control.begin
  commit := Traced.asking (fun _ => .commit) control.commit
  rollback := Traced.asking (fun _ => .rollback) control.rollback
  close := Traced.asking (fun _ => .close) control.close

/-- The scope of a unit of work with a session from a source. -/
def Scope.ofUnit {σ : Type} (control : SessionControl σ) (source : SessionSource) :
    Scope (UnitState σ) where
  enter := UnitOfWork.enter control source
  leave := UnitOfWork.leave control source

/-- A traced unit of work before it is entered. -/
def Traced.start {σ : Type} (source : SessionSource) (world : σ) : UnitState (Traced σ) :=
  UnitOfWork.start source { world }

section Kinds

variable {σ : Type} {move other : Move} {requests : List (Request σ)}

theorem ofMove_append (move : Move) (left right : List (Request σ)) :
    ofMove move (left ++ right) = ofMove move left ++ ofMove move right :=
  List.filter_append ..

theorem ofMove_eq_nil_iff :
    ofMove move requests = [] ↔ ∀ request ∈ requests, request.move ≠ move := by
  simp [ofMove]

/-- Requests of another kind do not count. -/
theorem ofMove_of_other (areOther : ∀ request ∈ requests, request.move = other)
    (different : other ≠ move) : ofMove move requests = [] := by
  rw [ofMove_eq_nil_iff]
  intro request member
  rw [areOther request member]
  exact different

end Kinds

theorem failure?_eq_none_iff {result : Except Error Unit} :
    failure? result = none ↔ result = .ok () := by
  cases result with
  | ok _ => exact iff_of_true rfl rfl
  | error failure => exact iff_of_false nofun nofun

namespace UnitOfWork

variable {σ α : Type} {control : SessionControl σ} {source : SessionSource}

theorem traced_inTransaction (state : Traced σ) :
    control.traced.inTransaction state = control.inTransaction state.world :=
  rfl

/-- Whether some requests lie between two states, and the same session is held in both. -/
structure Asked (before : UnitState (Traced σ)) (requests : List (Request σ))
    (after : UnitState (Traced σ)) : Prop where
  requests : after.world.requests = before.world.requests ++ requests
  holds : after.holdsSession = before.holdsSession

theorem Asked.refl (state : UnitState (Traced σ)) : Asked state [] state where
  requests := (List.append_nil _).symm
  holds := rfl

theorem Asked.trans {first second last : UnitState (Traced σ)} {earlier later : List (Request σ)}
    (left : Asked first earlier second) (right : Asked second later last) :
    Asked first (earlier ++ later) last where
  requests := by rw [right.requests, left.requests, List.append_assoc]
  holds := right.holds.trans left.holds

/-- A request that is made of the session of a unit of work. -/
theorem asked_lift (move : Except Error α → Move) (action : Action σ α)
    (state : UnitState (Traced σ)) :
    Asked state [⟨move (action state.world.world).1, failure? (action state.world.world).1,
        (action state.world.world).2⟩]
      (UnitOfWork.lift (Traced.asking move action) state).2 where
  requests := rfl
  holds := rfl

/-! ## Failures that become others -/

section Recast

variable {ω : Type} {action : Action ω α} {handle : Error → Action (UnitState ω) α}
variable {step : Action (UnitState ω) α} {before after : UnitState ω} {failure : Error}

theorem recast_apply :
    recast step handle before =
      match step before with
      | (.ok value, after) => (.ok value, after)
      | (.error failure, after) =>
          if failure.isOrdinary then handle failure after else (.error failure, after) := by
  cases ran : step before with
  | mk result after =>
      cases result with
      | ok value => exact recast_of_ok ran
      | error failure =>
          unfold recast
          simp only [tryCatch, tryCatchThe, MonadExceptOf.tryCatch, ExceptT.tryCatch, ExceptT.mk,
            bind, StateT.bind]
          rw [ran]
          dsimp only
          split <;> rfl

theorem recast_of_ordinary (ran : step before = (.error failure, after))
    (ordinary : failure.isOrdinary = true) : recast step handle before = handle failure after := by
  rw [recast_apply, ran]
  exact if_pos ordinary

/-- A handler that leaves the state alone does not show in it. -/
theorem recast_state (quiet : ∀ failure state, (handle failure state).2 = state) :
    (recast step handle before).2 = (step before).2 := by
  rw [recast_apply]
  cases step before with
  | mk result after =>
      cases result with
      | ok value => rfl
      | error failure =>
          dsimp only
          split
          · exact quiet failure after
          · rfl

/-- Behind a handler that fails, only what succeeds by itself succeeds. -/
theorem recast_eq_ok_iff {value : α}
    (fails : ∀ failure state, ∃ other, (handle failure state).1 = .error other) :
    (recast step handle before).1 = .ok value ↔ (step before).1 = .ok value := by
  rw [recast_apply]
  cases step before with
  | mk result after =>
      cases result with
      | ok given => exact Iff.rfl
      | error failure =>
          dsimp only
          split
          · obtain ⟨other, isError⟩ := fails failure after
            rw [isError]
            exact iff_of_false nofun nofun
          · exact iff_of_false nofun nofun

end Recast

/-! ## Entering -/

/-- What is asked of a session to open a transaction. -/
def beginRequests (control : SessionControl σ) (world : σ) : List (Request σ) :=
  if control.inTransaction world then []
  else [⟨.begin, failure? (control.begin world).1, (control.begin world).2⟩]

/-- What entering a unit of work asks for. -/
def openRequests (control : SessionControl σ) (source : SessionSource) (world : σ) :
    List (Request σ) :=
  match source with
  | .borrowed => beginRequests control world
  | .created =>
      ⟨.create (gave (control.create world).1), failure? (control.create world).1,
          (control.create world).2⟩ ::
        if gave (control.create world).1 then beginRequests control (control.create world).2 else []

/-- Whether a unit of work has a session once it has asked for one. -/
def obtains (control : SessionControl σ) (source : SessionSource) (world : σ) : Bool :=
  match source with
  | .borrowed => true
  | .created => gave (control.create world).1

/-- Begins the transaction of the session that is held. -/
def beginHeld (control : SessionControl σ) : Action (UnitState σ) Unit := do
  requireSession
  if !control.inTransaction (← get).world then UnitOfWork.lift control.begin

theorem requireSession_missing {ω : Type} {state : UnitState ω} (lacks : state.holdsSession = false) :
    requireSession state = (.error .sessionMissing, state) := by
  change (if state.holdsSession = true then (pure () : Action (UnitState ω) Unit)
    else throw .sessionMissing) state = _
  rw [if_neg (by simp [lacks])]
  rfl

theorem beginHeld_apply {ω : Type} {control : SessionControl ω} {state : UnitState ω}
    (holds : state.holdsSession = true) :
    beginHeld control state =
      if control.inTransaction state.world then (.ok (), state)
      else UnitOfWork.lift control.begin state := by
  refine (Action.bind_of_ok (requireSession_apply holds)).trans ?_
  refine (Action.bind_of_ok (Action.get_apply _)).trans ?_
  cases control.inTransaction state.world <;> rfl

/-- A created session is held if there is one. -/
theorem openSession_created {ω : Type} {control : SessionControl ω} (state : UnitState ω) :
    openSession control .created state =
      match UnitOfWork.lift control.create state with
      | (.ok given, after) => beginHeld control { after with holdsSession := given }
      | (.error failure, after) => (.error failure, after) := by
  cases ran : UnitOfWork.lift control.create state with
  | mk result after =>
      cases result with
      | ok given => exact Action.bind_of_ok ran
      | error failure => exact Action.bind_of_error ran

/-- Beginning asks for no more than it must, and fails if what it asks for does. -/
theorem beginHeld_asks (control : SessionControl σ) {state : UnitState (Traced σ)}
    (holds : state.holdsSession = true) :
    Asked state (beginRequests control state.world.world) (beginHeld control.traced state).2 ∧
      ((beginHeld control.traced state).1 = .ok () ↔
        ∀ request ∈ beginRequests control state.world.world, request.failure = none) := by
  rw [beginHeld_apply holds, beginRequests, traced_inTransaction]
  cases control.inTransaction state.world.world with
  | true =>
      refine ⟨.refl state, iff_of_true rfl fun request member => ?_⟩
      exact absurd member List.not_mem_nil
  | false =>
      rw [if_neg Bool.false_ne_true, if_neg Bool.false_ne_true, List.forall_mem_singleton]
      exact ⟨asked_lift (fun _ => .begin) control.begin state, failure?_eq_none_iff.symm⟩

theorem beginHeld_missing {ω : Type} {control : SessionControl ω} {state : UnitState ω}
    (lacks : state.holdsSession = false) :
    beginHeld control state = (.error .sessionMissing, state) :=
  Action.bind_of_error (requireSession_missing lacks)

/-- What comes of opening the session of a unit of work. -/
structure Opens (control : SessionControl σ) (source : SessionSource)
    (before : UnitState (Traced σ)) (outcome : Except Error Unit × UnitState (Traced σ)) : Prop where
  requests : outcome.2.world.requests =
    before.world.requests ++ openRequests control source before.world.world
  holds : outcome.2.holdsSession = obtains control source before.world.world
  succeeds : outcome.1 = .ok () ↔ obtains control source before.world.world = true ∧
    ∀ request ∈ openRequests control source before.world.world, request.failure = none

theorem opens_borrowed {state : UnitState (Traced σ)} (holds : state.holdsSession = true) :
    Opens control .borrowed state (openSession control.traced .borrowed state) := by
  obtain ⟨asked, succeeds⟩ := beginHeld_asks control holds
  exact {
    requests := asked.requests
    holds := asked.holds.trans holds
    succeeds := succeeds.trans (and_iff_right rfl).symm }

theorem opens_created {state : UnitState (Traced σ)} (lacks : state.holdsSession = false) :
    Opens control .created state (openSession control.traced .created state) := by
  -- the state in which the factory has been asked
  have created : UnitOfWork.lift control.traced.create state =
      ((control.create state.world.world).1, ⟨⟨(control.create state.world.world).2,
        state.world.requests ++ [⟨.create (gave (control.create state.world.world).1),
          failure? (control.create state.world.world).1, (control.create state.world.world).2⟩]⟩,
        state.holdsSession⟩) := rfl
  rw [openSession_created, created]
  cases ran : control.create state.world.world with
  | mk result world =>
      rcases result with failure | _ | _
      · exact {
          requests := by simp [openRequests, ran, gave]
          holds := by simp [obtains, ran, gave, lacks]
          succeeds := by simp [obtains, ran, gave] }
      · dsimp only
        rw [beginHeld_missing rfl]
        exact {
          requests := by simp [openRequests, ran, gave]
          holds := by simp [obtains, ran, gave]
          succeeds := by simp [obtains, ran, gave] }
      · have holds : (⟨⟨world, state.world.requests ++ [⟨.create true, none, world⟩]⟩, true⟩ :
            UnitState (Traced σ)).holdsSession = true := rfl
        obtain ⟨asked, succeeds⟩ := beginHeld_asks control holds
        exact {
          requests := by simpa [openRequests, ran, gave, failure?] using asked.requests
          holds := by simpa [obtains, ran, gave, failure?] using asked.holds
          succeeds := by simpa [obtains, openRequests, ran, gave, failure?] using succeeds }

/-- Entering a unit of work opens its session. -/
theorem opens_enter {world : σ} :
    Opens control source (Traced.start source world)
      (enter control.traced source (Traced.start source world)) := by
  have opens : Opens control source (Traced.start source world)
      (openSession control.traced source (Traced.start source world)) := by
    cases source with
    | borrowed => exact opens_borrowed rfl
    | created => exact opens_created rfl
  have sameState : (enter control.traced source (Traced.start source world)).2 =
      (openSession control.traced source (Traced.start source world)).2 :=
    recast_state fun failure state => by cases failure.kind <;> rfl
  have sameSuccess : (enter control.traced source (Traced.start source world)).1 = .ok () ↔
      (openSession control.traced source (Traced.start source world)).1 = .ok () :=
    recast_eq_ok_iff fun failure state => by
      cases failure.kind <;> exact ⟨_, rfl⟩
  exact {
    requests := by rw [sameState]; exact opens.requests
    holds := by rw [sameState]; exact opens.holds
    succeeds := sameSuccess.trans opens.succeeds }

/-! ## Ending the transaction -/

/-- What rolling back asks for. -/
def rollbackRequests (control : SessionControl σ) (world : σ) : List (Request σ) :=
  if control.inTransaction world then
    [⟨.rollback, failure? (control.rollback world).1, (control.rollback world).2⟩]
  else []

/-- What follows a commit. One that fails is followed by a rollback, unless it was interrupted. -/
def salvageRequests (control : SessionControl σ) (failure : Option Error) (world : σ) :
    List (Request σ) :=
  match failure with
  | none => []
  | some failure => if failure.isOrdinary then rollbackRequests control world else []

/-- What committing asks for. -/
def commitRequests (control : SessionControl σ) (world : σ) : List (Request σ) :=
  ⟨.commit, failure? (control.commit world).1, (control.commit world).2⟩ ::
    salvageRequests control (failure? (control.commit world).1) (control.commit world).2

theorem move_of_mem_rollbackRequests {world : σ} {request : Request σ}
    (member : request ∈ rollbackRequests control world) : request.move = .rollback := by
  unfold rollbackRequests at member
  split at member
  · rw [List.mem_singleton.1 member]
  · exact absurd member List.not_mem_nil

theorem move_of_mem_salvageRequests {failure : Option Error} {world : σ} {request : Request σ}
    (member : request ∈ salvageRequests control failure world) : request.move = .rollback := by
  unfold salvageRequests at member
  split at member
  · exact absurd member List.not_mem_nil
  · split at member
    · exact move_of_mem_rollbackRequests member
    · exact absurd member List.not_mem_nil

/-- An open transaction is rolled back. -/
theorem exists_mem_rollbackRequests {world : σ} (isOpen : control.inTransaction world = true) :
    ∃ request ∈ rollbackRequests control world, request.move = .rollback := by
  rw [rollbackRequests, if_pos isOpen]
  exact ⟨_, List.mem_singleton_self _, rfl⟩

/-- After a failed commit, an open transaction is rolled back unless the commit was interrupted. -/
theorem exists_mem_salvageRequests_iff {failure : Error} {world : σ}
    (isOpen : control.inTransaction world = true) :
    (∃ request ∈ salvageRequests control (some failure) world, request.move = .rollback) ↔
      failure.isOrdinary = true := by
  unfold salvageRequests
  dsimp only
  cases failure.isOrdinary with
  | true => exact iff_of_true (exists_mem_rollbackRequests isOpen) rfl
  | false => exact iff_of_false (fun ⟨_, member, _⟩ => List.not_mem_nil member) Bool.false_ne_true

theorem rollback_asks {state : UnitState (Traced σ)} (holds : state.holdsSession = true) :
    Asked state (rollbackRequests control state.world.world) (rollback control.traced state).2 := by
  unfold rollback
  rw [recast_state fun _ _ => rfl, Action.bind_of_ok (requireSession_apply holds),
    Action.bind_of_ok (Action.get_apply _), traced_inTransaction, rollbackRequests]
  cases control.inTransaction state.world.world with
  | true => exact asked_lift (fun _ => .rollback) control.rollback state
  | false => exact .refl state

/-- Committing, apart from what is made of its failures. -/
theorem commit_held {ω : Type} {control : SessionControl ω} {state : UnitState ω}
    (holds : state.holdsSession = true) :
    (do requireSession; UnitOfWork.lift control.commit : Action (UnitState ω) Unit) state =
      UnitOfWork.lift control.commit state :=
  Action.bind_of_ok (requireSession_apply holds)

/-- After a failed commit there is an attempt to roll back, and always a failure. -/
theorem salvage_failed {ω : Type} (control : SessionControl ω) (failure : Error)
    (state : UnitState ω) :
    ∃ other, (do
        recast (rollback control) fun _ => pure ()
        throw (.commitFailed failure.message) : Action (UnitState ω) Unit) state =
      (.error other, (rollback control state).2) := by
  have sameState : (recast (rollback control) (fun _ => pure ()) state).2 =
      (rollback control state).2 := recast_state fun _ _ => rfl
  cases ran : recast (rollback control) (fun _ => pure ()) state with
  | mk result after =>
      rw [ran] at sameState
      rw [← sameState]
      cases result with
      | ok _ => exact ⟨_, Action.bind_of_ok ran⟩
      | error other => exact ⟨other, Action.bind_of_error ran⟩

theorem rollback_missing {ω : Type} {control : SessionControl ω} {state : UnitState ω}
    (lacks : state.holdsSession = false) : (rollback control state).2 = state := by
  unfold rollback
  rw [recast_state fun _ _ => rfl, Action.bind_of_error (requireSession_missing lacks)]

/-- Without a session nothing is asked for. -/
theorem commit_missing {ω : Type} {control : SessionControl ω} {state : UnitState ω}
    (lacks : state.holdsSession = false) : (commit control state).2 = state := by
  unfold commit
  obtain ⟨other, salvaged⟩ := salvage_failed control .sessionMissing state
  rw [recast_of_ordinary (Action.bind_of_error (requireSession_missing lacks)) rfl, salvaged]
  exact rollback_missing lacks

theorem commit_asks {state : UnitState (Traced σ)} (holds : state.holdsSession = true) :
    Asked state (commitRequests control state.world.world) (commit control.traced state).2 := by
  have asked := asked_lift (fun _ => .commit) control.commit state
  have held : (UnitOfWork.lift control.traced.commit state).2.holdsSession = true := holds
  unfold commit commitRequests
  rw [recast_apply, commit_held holds]
  have committed : UnitOfWork.lift control.traced.commit state =
      ((control.commit state.world.world).1,
        (UnitOfWork.lift control.traced.commit state).2) := rfl
  rw [committed]
  cases result : (control.commit state.world.world).1 with
  | ok _ =>
      rw [result] at asked
      exact asked
  | error failure =>
      rw [result] at asked
      dsimp only [failure?, salvageRequests]
      cases failure.isOrdinary with
      | false => exact asked
      | true =>
          obtain ⟨other, salvaged⟩ := salvage_failed control.traced failure
            (UnitOfWork.lift control.traced.commit state).2
          rw [if_pos rfl, if_pos rfl, salvaged]
          exact asked.trans (rollback_asks held)

/-- A commit succeeds if that of the session does. -/
theorem commit_eq_ok_iff {state : UnitState (Traced σ)} (holds : state.holdsSession = true) :
    (commit control.traced state).1 = .ok () ↔ (control.commit state.world.world).1 = .ok () := by
  unfold commit
  rw [recast_eq_ok_iff, commit_held holds]
  · exact Iff.rfl
  · intro failure state
    obtain ⟨other, salvaged⟩ := salvage_failed control.traced failure state
    exact ⟨other, by rw [salvaged]⟩

/-! ## Leaving -/

/-- What ending the transaction asks for, by the failure of the body. -/
def endRequests (control : SessionControl σ) (failure : Option Error) (world : σ) :
    List (Request σ) :=
  if failure.isNone then commitRequests control world else rollbackRequests control world

/-- Ending a transaction asks for nothing but a commit and a rollback. -/
theorem move_of_mem_endRequests {failure : Option Error} {world : σ} {request : Request σ}
    (member : request ∈ endRequests control failure world) :
    request.move = .commit ∨ request.move = .rollback := by
  unfold endRequests at member
  split at member
  · rcases List.mem_cons.1 member with rfl | member
    · exact Or.inl rfl
    · exact Or.inr (move_of_mem_salvageRequests member)
  · exact Or.inr (move_of_mem_rollbackRequests member)

/-- What letting go of a session asks for. -/
def closeRequests (control : SessionControl σ) (source : SessionSource) (world : σ) :
    List (Request σ) :=
  match source with
  | .borrowed => []
  | .created => [⟨.close, failure? (control.close world).1, (control.close world).2⟩]

theorem move_of_mem_closeRequests {world : σ} {request : Request σ}
    (member : request ∈ closeRequests control source world) : request.move = .close := by
  cases source with
  | borrowed => exact absurd member List.not_mem_nil
  | created => rw [List.mem_singleton.1 member]

/-- A created session is closed and let go, and how closing went is how letting go went. -/
theorem release_created {ω : Type} {control : SessionControl ω} {state : UnitState ω}
    (holds : state.holdsSession = true) :
    release control .created state =
      ((recast (UnitOfWork.lift control.close)
          (fun failure => throw (.closeFailed failure.message)) state).1,
        { (recast (UnitOfWork.lift control.close)
            (fun failure => throw (.closeFailed failure.message)) state).2 with
          holdsSession := false }) := by
  unfold release
  rw [Action.bind_of_ok (Action.get_apply _), holds]
  refine (Action.bind_of_ok (Action.lift_run_apply _ _)).trans ?_
  refine (Action.bind_of_ok (Action.modify_apply _ _)).trans ?_
  exact Action.ofExcept_apply _ _

theorem release_asks (control : SessionControl σ) (source : SessionSource)
    {state : UnitState (Traced σ)} (holds : state.holdsSession = true) :
    (release control.traced source state).2.world.requests =
        state.world.requests ++ closeRequests control source state.world.world ∧
      (release control.traced source state).2.holdsSession = decide (source = .borrowed) := by
  cases source with
  | borrowed =>
      have kept : release control.traced .borrowed state = (.ok (), state) := by
        unfold release
        rw [Action.bind_of_ok (Action.get_apply _)]
        rfl
      rw [kept]
      exact ⟨(List.append_nil _).symm, holds⟩
  | created =>
      rw [release_created holds, recast_state fun _ _ => rfl]
      exact ⟨rfl, rfl⟩

/-- Ends the transaction by the failure of the body. -/
def endTransaction {ω : Type} (control : SessionControl ω) (failure : Option Error) :
    Action (UnitState ω) Unit :=
  if failure.isNone then commit control else rollback control

/-- A failure to let go of the session takes the place of the outcome of the ending. -/
theorem leave_apply {ω : Type} {control : SessionControl ω} {failure : Option Error}
    {state : UnitState ω} :
    leave control source failure state =
      match release control source (endTransaction control failure state).2 with
      | (.ok _, after) => ((endTransaction control failure state).1, after)
      | (.error other, after) => (.error other, after) := by
  unfold leave
  refine (Action.bind_of_ok (Action.lift_run_apply _ _)).trans ?_
  change (release control source >>= fun _ =>
    MonadExcept.ofExcept (endTransaction control failure state).1)
      (endTransaction control failure state).2 = _
  cases ran : release control source (endTransaction control failure state).2 with
  | mk result after =>
      cases result with
      | ok _ => exact (Action.bind_of_ok ran).trans (Action.ofExcept_apply _ _)
      | error other => exact Action.bind_of_error ran

theorem endTransaction_asks (control : SessionControl σ) {state : UnitState (Traced σ)}
    (holds : state.holdsSession = true) (failure : Option Error) :
    Asked state (endRequests control failure state.world.world)
      (endTransaction control.traced failure state).2 := by
  cases failure with
  | none => exact commit_asks holds
  | some failure => exact rollback_asks holds

/-- What comes of leaving a unit of work. -/
structure Leaves (control : SessionControl σ) (source : SessionSource) (failure : Option Error)
    (before : UnitState (Traced σ)) (outcome : Except Error Unit × UnitState (Traced σ)) : Prop where
  requests : ∃ world, outcome.2.world.requests =
    before.world.requests ++
      (endRequests control failure before.world.world ++ closeRequests control source world)
  lets : outcome.2.holdsSession = decide (source = .borrowed)
  /-- Without a failure of the body, it takes a commit to succeed. -/
  commits : failure = none → outcome.1 = .ok () → (control.commit before.world.world).1 = .ok ()

theorem leaves_unit (control : SessionControl σ) (source : SessionSource)
    {state : UnitState (Traced σ)} (holds : state.holdsSession = true) (failure : Option Error) :
    Leaves control source failure state (leave control.traced source failure state) := by
  have asked := endTransaction_asks control holds failure
  have released := release_asks control source (asked.holds.trans holds)
  rw [leave_apply]
  cases ran : release control.traced source (endTransaction control.traced failure state).2 with
  | mk result after =>
      rw [ran, asked.requests, List.append_assoc] at released
      cases result with
      | ok _ =>
          refine ⟨⟨_, released.1⟩, released.2, ?_⟩
          rintro rfl succeeded
          exact (commit_eq_ok_iff holds).1 succeeded
      | error other => exact ⟨⟨_, released.1⟩, released.2, fun _ impossible => nomatch impossible⟩

/-! ## Bodies -/

/-- Whether a body uses the session of its unit of work for statements alone, and asks for nothing
besides but to commit and to roll back. -/
def Body (body : Action (UnitState (Traced σ)) α) : Prop :=
  ∀ before, ∃ requests, Asked before requests (body before).2 ∧
    ∀ request ∈ requests, request.move = .commit ∨ request.move = .rollback

/-- An action of the world in a traced unit of work. -/
def unnoted (action : Action σ α) : Action (UnitState (Traced σ)) α :=
  UnitOfWork.lift fun state => ((action state.world).1, { state with world := (action state.world).2 })

/-- What a body does to the world is its own affair. -/
theorem Body.unnoted (action : Action σ α) : Body (unnoted action) := by
  intro before
  refine ⟨[], ⟨(List.append_nil _).symm, rfl⟩, fun request member => ?_⟩
  exact absurd member List.not_mem_nil

theorem Body.throw (failure : Error) : Body (throw failure : Action (UnitState (Traced σ)) α) := by
  intro before
  refine ⟨[], .refl before, fun request member => ?_⟩
  exact absurd member List.not_mem_nil

theorem Body.bind {β : Type} {body : Action (UnitState (Traced σ)) α}
    {next : α → Action (UnitState (Traced σ)) β} (head : Body body)
    (tail : ∀ value, Body (next value)) : Body (body >>= next) := by
  intro before
  obtain ⟨earlier, asked, known⟩ := head before
  cases ran : body before with
  | mk result middle =>
      rw [ran] at asked
      cases result with
      | error failure =>
          rw [Action.bind_of_error ran]
          exact ⟨earlier, asked, known⟩
      | ok value =>
          rw [Action.bind_of_ok ran]
          obtain ⟨later, asked', known'⟩ := tail value middle
          exact ⟨earlier ++ later, asked.trans asked', List.forall_mem_append.2 ⟨known, known'⟩⟩

/-- A body may commit by itself. -/
theorem Body.commit : Body (commit control.traced) := by
  intro before
  cases holds : before.holdsSession with
  | true =>
      refine ⟨_, commit_asks holds, ?_⟩
      rw [commitRequests, List.forall_mem_cons]
      exact ⟨Or.inl rfl, fun request member => Or.inr (move_of_mem_salvageRequests member)⟩
  | false =>
      refine ⟨[], ?_, fun request member => absurd member List.not_mem_nil⟩
      rw [commit_missing holds]
      exact .refl before

end UnitOfWork

/-! ## Scopes -/

/-- A scope that is entered is left, by the failure of the body. -/
theorem Scope.within_state {σ α : Type} {scope : Scope σ} {body : Action σ α} {before entered : σ}
    (enterRan : scope.enter before = (.ok (), entered)) :
    (scope.within body before).2 = (scope.leave (failure? (body entered).1) (body entered).2).2 := by
  unfold Scope.within
  rw [Action.bind_of_ok enterRan, Action.bind_of_ok (Action.lift_run_apply _ _)]
  cases (body entered).1 with
  | ok value => exact Action.bind_state fun _ _ => rfl
  | error failure => exact Action.bind_state fun _ _ => rfl

namespace UnitOfWork

variable {σ α : Type} {control : SessionControl σ} {source : SessionSource}
variable {body : Action (UnitState (Traced σ)) α} {world : σ}

/-! ## Runs -/

/-- The outcome of a body in a unit of work, and all that was asked of the session. -/
def runUnit (control : SessionControl σ) (source : SessionSource)
    (body : Action (UnitState (Traced σ)) α) (world : σ) :
    Except Error α × UnitState (Traced σ) :=
  (Scope.ofUnit control.traced source).within body (Traced.start source world)

/-- The outcome of entering a unit of work. -/
def entering (control : SessionControl σ) (source : SessionSource) (world : σ) :
    Except Error Unit × UnitState (Traced σ) :=
  enter control.traced source (Traced.start source world)

/-- The outcome of the body alone, in a unit of work that was entered. -/
def bodyRun (control : SessionControl σ) (source : SessionSource)
    (body : Action (UnitState (Traced σ)) α) (world : σ) :
    Except Error α × UnitState (Traced σ) :=
  body (entering control source world).2

/-- The world in which the body ended. -/
def worldAfterBody (control : SessionControl σ) (source : SessionSource)
    (body : Action (UnitState (Traced σ)) α) (world : σ) : σ :=
  (bodyRun control source body world).2.world.world

/-- What was asked for after the body. -/
def ending (control : SessionControl σ) (source : SessionSource)
    (body : Action (UnitState (Traced σ)) α) (world : σ) : List (Request σ) :=
  (runUnit control source body world).2.world.requests.drop
    (bodyRun control source body world).2.world.requests.length

theorem enter_of_entered (isEntered : (entering control source world).1 = .ok ()) :
    (Scope.ofUnit control.traced source).enter (Traced.start source world) =
      (.ok (), (entering control source world).2) :=
  Prod.ext isEntered rfl

/-- A unit of work that was entered holds its session, to the end of the body. -/
theorem bodyRun_holds (isBody : Body body) (isEntered : (entering control source world).1 = .ok ()) :
    (bodyRun control source body world).2.holdsSession = true := by
  have opens : Opens control source (Traced.start source world) (entering control source world) :=
    opens_enter
  obtain ⟨requests, asked, _⟩ := isBody (entering control source world).2
  rw [bodyRun, asked.holds, opens.holds]
  exact (opens.succeeds.1 isEntered).1

/-- A unit of work that was entered is left after the body, by its failure. -/
theorem runUnit_state (isEntered : (entering control source world).1 = .ok ()) :
    (runUnit control source body world).2 =
      (leave control.traced source (failure? (bodyRun control source body world).1)
        (bodyRun control source body world).2).2 :=
  Scope.within_state (enter_of_entered isEntered)

theorem runUnit_eq_ok (isEntered : (entering control source world).1 = .ok ()) {value : α}
    (succeeded : (runUnit control source body world).1 = .ok value) :
    (bodyRun control source body world).1 = .ok value ∧
      (leave control.traced source none (bodyRun control source body world).2).1 = .ok () := by
  have ran : (Scope.ofUnit control.traced source).within body (Traced.start source world) =
      (.ok value, (runUnit control source body world).2) := Prod.ext succeeded rfl
  obtain ⟨entered, middle, enterRan, ranBody, leaveRan⟩ := Scope.within_eq_ok ran
  rw [enter_of_entered isEntered] at enterRan
  cases enterRan
  have same : bodyRun control source body world = (.ok value, middle) := ranBody
  rw [same]
  exact ⟨rfl, congrArg Prod.fst leaveRan⟩

section Entered

variable (isBody : Body body) (isEntered : (entering control source world).1 = .ok ())

include isBody isEntered

theorem runUnit_leaves :
    ∃ last, (runUnit control source body world).2.world.requests =
      (bodyRun control source body world).2.world.requests ++
        (endRequests control (failure? (bodyRun control source body world).1)
          (worldAfterBody control source body world) ++ closeRequests control source last) := by
  rw [runUnit_state isEntered]
  exact (leaves_unit control source (bodyRun_holds isBody isEntered) _).requests

/-- The requests of a unit of work are those of its opening and its body, and then its ending. -/
theorem requests_runUnit :
    (runUnit control source body world).2.world.requests =
      (bodyRun control source body world).2.world.requests ++
        ending control source body world := by
  obtain ⟨last, requests⟩ := runUnit_leaves isBody isEntered
  rw [ending, requests, List.drop_left]

theorem ending_eq :
    ∃ last, ending control source body world =
      endRequests control (failure? (bodyRun control source body world).1)
        (worldAfterBody control source body world) ++ closeRequests control source last := by
  obtain ⟨last, requests⟩ := runUnit_leaves isBody isEntered
  exact ⟨last, by rw [ending, requests, List.drop_left]⟩

/-- After a body that failed, there is no commit. -/
theorem ending_of_failed {failure : Error}
    (failed : (bodyRun control source body world).1 = .error failure) :
    ∃ last, ending control source body world =
      rollbackRequests control (worldAfterBody control source body world) ++
        closeRequests control source last := by
  obtain ⟨last, isEnding⟩ := ending_eq isBody isEntered
  rw [failed] at isEnding
  exact ⟨last, isEnding⟩

/-- After a body that did not fail, there is one commit. -/
theorem ending_of_ok {value : α} (succeeded : (bodyRun control source body world).1 = .ok value) :
    ∃ last, ending control source body world =
      commitRequests control (worldAfterBody control source body world) ++
        closeRequests control source last := by
  obtain ⟨last, isEnding⟩ := ending_eq isBody isEntered
  rw [succeeded] at isEnding
  exact ⟨last, isEnding⟩

/-- A unit of work with a body that does not fail fails if its commit does. -/
theorem commit_of_runUnit_ok {value : α}
    (succeeded : (runUnit control source body world).1 = .ok value) :
    (control.commit (worldAfterBody control source body world)).1 = .ok () := by
  obtain ⟨_, left⟩ := runUnit_eq_ok isEntered succeeded
  exact (leaves_unit control source (bodyRun_holds isBody isEntered) none).commits rfl left

end Entered

end UnitOfWork

end RecordGraph
