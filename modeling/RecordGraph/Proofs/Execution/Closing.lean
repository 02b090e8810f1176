import RecordGraph.Proofs.Execution.Ending

/-!
Contract: when the session of a unit of work is closed.

Owns: `UnitOfWork.LetsGo`, and when a unit of work keeps it.
Does not own: how the transaction ends.

A session that was created is closed once the unit of work is left, whatever fails on the way. But a
unit of work that is not entered is not left either, so that a session that cannot begin a
transaction is never closed, and stays with the unit of work.
-/

namespace RecordGraph

namespace UnitOfWork

variable {σ α : Type} {control : SessionControl σ} {source : SessionSource}
variable {body : Action (UnitState (Traced σ)) α} {world : σ}

/-- Whether a unit of work lets go of its session: every session that was created is closed once,
and none is held; a session of the caller is not closed. -/
structure LetsGo (control : SessionControl σ) (source : SessionSource)
    (body : Action (UnitState (Traced σ)) α) (world : σ) : Prop where
  created : source = .created →
    (ofMove .close (runUnit control source body world).2.world.requests).length =
        (ofMove (.create true) (runUnit control source body world).2.world.requests).length ∧
      (ofMove (.create true) (runUnit control source body world).2.world.requests).length ≤ 1 ∧
        (runUnit control source body world).2.holdsSession = false
  borrowed : source = .borrowed →
    ofMove .close (runUnit control source body world).2.world.requests = []

/-- Whether a factory gives a session that then cannot begin a transaction. -/
structure Stranded (control : SessionControl σ) (world : σ) : Prop where
  given : (control.create world).1 = .ok true
  idle : control.inTransaction (control.create world).2 = false
  fails : ∃ failure, (control.begin (control.create world).2).1 = .error failure

theorem gave_iff {result : Except Error Bool} : gave result = true ↔ result = .ok true := by
  rcases result with failure | _ | _
  · exact iff_of_false nofun nofun
  · exact iff_of_false nofun nofun
  · exact iff_of_true rfl rfl

/-! ## Entering -/

theorem move_of_mem_beginRequests {request : Request σ}
    (member : request ∈ beginRequests control world) : request.move = .begin := by
  unfold beginRequests at member
  split at member
  · exact absurd member List.not_mem_nil
  · rw [List.mem_singleton.1 member]

/-- Entering asks for a session at most once, and closes none. -/
theorem moves_openRequests (control : SessionControl σ) (source : SessionSource) (world : σ) :
    ofMove .close (openRequests control source world) = [] ∧
      (ofMove (.create true) (openRequests control source world)).length =
        if source = .created ∧ gave (control.create world).1 = true then 1 else 0 := by
  have noClosing : ∀ world, ofMove .close (beginRequests control world) = [] :=
    fun world => ofMove_of_other (fun _ => move_of_mem_beginRequests) nofun
  have noGift : ∀ world, ofMove (.create true) (beginRequests control world) = [] :=
    fun world => ofMove_of_other (fun _ => move_of_mem_beginRequests) nofun
  cases source with
  | borrowed =>
      refine ⟨noClosing world, ?_⟩
      rw [openRequests, noGift]
      rfl
  | created =>
      unfold openRequests
      cases isGiven : gave (control.create world).1 with
      | false => exact ⟨rfl, rfl⟩
      | true =>
          rw [if_pos rfl, ← List.singleton_append, ofMove_append, ofMove_append, noClosing, noGift]
          exact ⟨rfl, rfl⟩

/-- Beginning fails if there is no transaction yet and the session cannot begin one. -/
theorem begin_failed_iff :
    (¬ ∀ request ∈ beginRequests control world, request.failure = none) ↔
      control.inTransaction world = false ∧ ∃ failure, (control.begin world).1 = .error failure := by
  unfold beginRequests
  cases control.inTransaction world with
  | true => exact iff_of_false (fun failed => failed fun _ member => absurd member List.not_mem_nil) nofun
  | false =>
      rw [if_neg Bool.false_ne_true, List.forall_mem_singleton, failure?_eq_none_iff,
        and_iff_right rfl]
      cases (control.begin world).1 with
      | ok _ => exact iff_of_false (fun failed => failed rfl) nofun
      | error failure => exact iff_of_true nofun ⟨failure, rfl⟩

/-- A unit of work with a session that was given is not entered exactly if the session is stranded. -/
theorem not_entered_iff (isGiven : (control.create world).1 = .ok true) :
    (entering control .created world).1 ≠ .ok () ↔ Stranded control world := by
  have opens : Opens control .created (Traced.start .created world)
      (entering control .created world) := opens_enter
  have isStart : (Traced.start .created world).world.world = world := rfl
  have obtained : obtains control .created world = true := gave_iff.2 isGiven
  have created : failure? (control.create world).1 = none := by
    rw [isGiven]
    rfl
  rw [ne_eq, opens.succeeds, isStart, and_iff_right obtained, openRequests, List.forall_mem_cons,
    and_iff_right created, if_pos (gave_iff.2 isGiven), begin_failed_iff]
  constructor
  · rintro ⟨idle, fails⟩
    exact ⟨isGiven, idle, fails⟩
  · intro stranded
    exact ⟨stranded.idle, stranded.fails⟩

/-! ## The rule -/

/-- What ends a transaction neither gives nor closes a session. -/
theorem ofMove_of_ends {requests : List (Request σ)}
    (ends : ∀ request ∈ requests, request.move = .commit ∨ request.move = .rollback) :
    ofMove .close requests = [] ∧ ofMove (.create true) requests = [] := by
  rw [ofMove_eq_nil_iff, ofMove_eq_nil_iff]
  refine ⟨fun request member => ?_, fun request member => ?_⟩
  · rcases ends request member with isMove | isMove <;> rw [isMove] <;> exact nofun
  · rcases ends request member with isMove | isMove <;> rw [isMove] <;> exact nofun

theorem moves_closeRequests (control : SessionControl σ) (source : SessionSource) (last : σ) :
    ofMove (.create true) (closeRequests control source last) = [] ∧
      (ofMove .close (closeRequests control source last)).length =
        if source = .created then 1 else 0 := by
  cases source with
  | borrowed => exact ⟨rfl, rfl⟩
  | created => exact ⟨rfl, rfl⟩

section Entered

variable (isBody : Body body) (isEntered : (entering control source world).1 = .ok ())

include isBody isEntered

/-- Between its opening and its closing a unit of work asks for nothing but the end of its
transaction. -/
theorem requests_of_entered :
    ∃ ends last, (runUnit control source body world).2.world.requests =
        openRequests control source world ++ ends ++ closeRequests control source last ∧
      ∀ request ∈ ends, request.move = .commit ∨ request.move = .rollback := by
  have opens : Opens control source (Traced.start source world) (entering control source world) :=
    opens_enter
  obtain ⟨last, requests⟩ := runUnit_leaves isBody isEntered
  obtain ⟨own, asked, known⟩ := isBody (entering control source world).2
  have before : (bodyRun control source body world).2.world.requests =
      openRequests control source world ++ own := by
    rw [bodyRun, asked.requests, opens.requests]
    rfl
  refine ⟨own ++ endRequests control (failure? (bodyRun control source body world).1)
    (worldAfterBody control source body world), last, ?_, ?_⟩
  · rw [requests, before]
    simp only [List.append_assoc]
  · exact List.forall_mem_append.2 ⟨known, fun request => move_of_mem_endRequests⟩

theorem holds_of_entered :
    (runUnit control source body world).2.holdsSession = decide (source = .borrowed) := by
  rw [runUnit_state isEntered]
  exact (leaves_unit control source (bodyRun_holds isBody isEntered) _).lets

/-- A unit of work that was entered lets go of its session. -/
theorem letsGo_of_entered : LetsGo control source body world := by
  obtain ⟨ends, last, requests, known⟩ := requests_of_entered isBody isEntered
  obtain ⟨endsNoClosing, endsNoGift⟩ := ofMove_of_ends known
  obtain ⟨openNoClosing, gifts⟩ := moves_openRequests control source world
  obtain ⟨closeNoGift, closings⟩ := moves_closeRequests control source last
  have allClosings : ofMove .close (runUnit control source body world).2.world.requests =
      ofMove .close (closeRequests control source last) := by
    rw [requests, ofMove_append, ofMove_append, openNoClosing, endsNoClosing]
    rfl
  have allGifts : ofMove (.create true) (runUnit control source body world).2.world.requests =
      ofMove (.create true) (openRequests control source world) := by
    rw [requests, ofMove_append, ofMove_append, endsNoGift, closeNoGift, List.append_nil,
      List.append_nil]
  refine ⟨fun isCreated => ?_, fun isBorrowed => ?_⟩
  · subst isCreated
    have opens : Opens control .created (Traced.start .created world)
        (entering control .created world) := opens_enter
    have given : gave (control.create world).1 = true := (opens.succeeds.1 isEntered).1
    rw [allClosings, allGifts, closings, gifts, if_pos rfl, if_pos ⟨rfl, given⟩,
      holds_of_entered isBody isEntered]
    exact ⟨rfl, Nat.le_refl 1, rfl⟩
  · subst isBorrowed
    rw [allClosings]
    rfl

end Entered

/-- A unit of work that was not entered keeps the session that it was given. -/
theorem letsGo_of_not_entered (notEntered : (entering control source world).1 ≠ .ok ()) :
    LetsGo control source body world ↔
      ¬ (source = .created ∧ (control.create world).1 = .ok true) := by
  have opens : Opens control source (Traced.start source world) (entering control source world) :=
    opens_enter
  have refused : (runUnit control source body world).2 = (entering control source world).2 := by
    cases ran : (entering control source world).1 with
    | ok _ => exact absurd ran notEntered
    | error failure =>
        have entered : (Scope.ofUnit control.traced source).enter (Traced.start source world) =
            (.error failure, (entering control source world).2) := Prod.ext ran rfl
        rw [runUnit, Scope.within_of_refused entered]
  have requests : (runUnit control source body world).2.world.requests =
      openRequests control source world := by
    rw [refused, opens.requests]
    rfl
  obtain ⟨noClosing, gifts⟩ := moves_openRequests control source world
  constructor
  · rintro rule ⟨rfl, given⟩
    have counts := (rule.created rfl).1
    rw [requests, noClosing, gifts, if_pos ⟨rfl, gave_iff.2 given⟩] at counts
    cases counts
  · intro notGiven
    refine ⟨fun isCreated => ?_, fun _ => by rw [requests, noClosing]⟩
    have notGave : gave (control.create world).1 = false := by
      rw [Bool.eq_false_iff, ne_eq, gave_iff]
      exact fun given => notGiven ⟨isCreated, given⟩
    subst isCreated
    rw [requests, noClosing, gifts, if_neg (by simp [notGave]), refused, opens.holds]
    exact ⟨rfl, Nat.zero_le 1, notGave⟩

/-- A unit of work lets go of its session exactly if the session was not stranded on entry. -/
theorem letsGo_iff (isBody : Body body) :
    LetsGo control source body world ↔ ¬ (source = .created ∧ Stranded control world) := by
  by_cases isEntered : (entering control source world).1 = .ok ()
  · refine iff_of_true (letsGo_of_entered isBody isEntered) ?_
    rintro ⟨rfl, stranded⟩
    exact (not_entered_iff stranded.given).2 stranded isEntered
  · rw [letsGo_of_not_entered isEntered]
    refine not_congr (and_congr_right ?_)
    rintro rfl
    exact ⟨fun isGiven => (not_entered_iff isGiven).1 isEntered, Stranded.given⟩

/-! ## Sessions that fail -/

/-- A session that does not close. -/
def stuckScript : ControlScript where
  failures := [("rollback", "no rollback"), ("close", "no close")]

/-- A session that does not begin. -/
def idleScript : ControlScript where
  failures := [("begin", "no begin")]

/-- A session that neither rolls back nor closes is let go of after an interrupted body, and one that
does not begin is not let go of. -/
theorem letsGo_iff_scripted :
    LetsGo ControlScript.control .created interruptedBody stuckScript ∧
      ¬ LetsGo ControlScript.control .created interruptedBody idleScript := by
  have isBody : Body interruptedBody := .bind (.unnoted _) fun _ => .throw _
  constructor
  · refine (letsGo_iff isBody).2 ?_
    rintro ⟨_, stranded⟩
    obtain ⟨failure, impossible⟩ := stranded.fails
    cases impossible
  · intro rule
    exact (letsGo_iff isBody).1 rule ⟨rfl, rfl, rfl, _, rfl⟩

/-- A session that does not begin is not closed, and stays with the unit of work. -/
theorem stranded_session_not_closed :
    ¬ LetsGo ControlScript.control .created (pure ()) idleScript ∧
      (runUnit ControlScript.control .created (pure ()) idleScript).2.holdsSession = true ∧
        (runUnit ControlScript.control .created (pure ()) idleScript).2.world.world.log =
          ["factory", "begin"] := by
  refine ⟨fun rule => ?_, rfl, rfl⟩
  have counts := (rule.created rfl).1
  cases counts

end UnitOfWork

end RecordGraph
