import RecordGraph.Execution.Scripted
import RecordGraph.Proofs.Execution.Requests

/-!
Contract: how the transaction of a unit of work ends.

Owns: `UnitOfWork.RollsBack`, and when a unit of work keeps it.
Does not own: the session itself; `RecordGraph.Proofs.Execution.Closing` says when it is closed.

A body that fails is rolled back, whatever its failure. A commit that fails is rolled back unless it
was interrupted: an interruption is not caught, so that nothing follows it but the closing of a
created session, and the transaction of a borrowed session stays open.
-/

namespace RecordGraph

namespace UnitOfWork

variable {σ α : Type} {control : SessionControl σ} {source : SessionSource}
variable {body : Action (UnitState (Traced σ)) α} {world : σ}

/-- How the transaction of a unit of work is to end. -/
structure RollsBack (control : SessionControl σ) (source : SessionSource)
    (body : Action (UnitState (Traced σ)) α) (world : σ) : Prop where
  once : (ofMove .commit (runUnit control source body world).2.world.requests).length ≤ 1
  /-- There is a commit only if the body has not failed. -/
  clean : ∀ failure, (bodyRun control source body world).1 = .error failure →
    ofMove .commit (runUnit control source body world).2.world.requests = []
  /-- After a body that failed, an open transaction is rolled back. -/
  bodyFailed : ∀ failure, (bodyRun control source body world).1 = .error failure →
    control.inTransaction (worldAfterBody control source body world) = true →
      ∃ request ∈ ending control source body world, request.move = .rollback
  /-- After a commit that failed, an open transaction is rolled back. -/
  commitFailed : ∀ earlier commit later,
    ending control source body world = earlier ++ commit :: later → commit.move = .commit →
      commit.failure ≠ none → control.inTransaction commit.after = true →
        ∃ request ∈ later, request.move = .rollback
  raises : (∃ failure, (bodyRun control source body world).1 = .error failure) ∨
      (∃ request ∈ ending control source body world,
        request.move = .commit ∧ request.failure ≠ none) →
    ∃ failure, (runUnit control source body world).1 = .error failure

theorem commits_commitRequests (world : σ) :
    ofMove .commit (commitRequests control world) =
      [⟨.commit, failure? (control.commit world).1, (control.commit world).2⟩] := by
  have noOther : ofMove .commit (salvageRequests control (failure? (control.commit world).1)
      (control.commit world).2) = [] :=
    ofMove_of_other (fun _ => move_of_mem_salvageRequests) nofun
  rw [ofMove] at noOther ⊢
  rw [commitRequests, List.filter_cons_of_pos (by simp), noOther]

theorem commits_closeRequests (source : SessionSource) (last : σ) :
    ofMove .commit (closeRequests control source last) = [] :=
  ofMove_of_other (fun _ => move_of_mem_closeRequests) nofun

theorem commits_rollbackRequests (world : σ) :
    ofMove .commit (rollbackRequests control world) = [] :=
  ofMove_of_other (fun _ => move_of_mem_rollbackRequests) nofun

/-- What follows the commit of a unit of work is no commit. -/
theorem eq_commit_of_split {last : σ} {earlier later : List (Request σ)} {commit : Request σ}
    (split : commitRequests control world ++ closeRequests control source last =
      earlier ++ commit :: later) (isCommit : commit.move = .commit) :
    commit = ⟨.commit, failure? (control.commit world).1, (control.commit world).2⟩ ∧
      later = salvageRequests control (failure? (control.commit world).1) (control.commit world).2 ++
        closeRequests control source last := by
  have noOther : ofMove .commit (salvageRequests control (failure? (control.commit world).1)
      (control.commit world).2 ++ closeRequests control source last) = [] := by
    rw [ofMove_append, commits_closeRequests, List.append_nil]
    exact ofMove_of_other (fun _ => move_of_mem_salvageRequests) nofun
  rw [ofMove_eq_nil_iff] at noOther
  rw [commitRequests, List.cons_append] at split
  cases earlier with
  | nil =>
      rw [List.nil_append, List.cons.injEq] at split
      exact ⟨split.1.symm, split.2.symm⟩
  | cons first rest =>
      rw [List.cons_append, List.cons.injEq] at split
      refine absurd isCommit (noOther commit ?_)
      rw [split.2]
      exact List.mem_append_right _ (List.mem_cons_self ..)

section Entered

variable (isBody : Body body) (isEntered : (entering control source world).1 = .ok ())

include isBody isEntered

/-- With a body that fails, the rule takes a body that does not commit. -/
theorem rollsBack_of_failed {failure : Error}
    (failed : (bodyRun control source body world).1 = .error failure) :
    RollsBack control source body world ↔
      ofMove .commit (bodyRun control source body world).2.world.requests = [] := by
  obtain ⟨last, isEnding⟩ := ending_of_failed isBody isEntered failed
  have sameCommits : ofMove .commit (runUnit control source body world).2.world.requests =
      ofMove .commit (bodyRun control source body world).2.world.requests := by
    rw [requests_runUnit isBody isEntered, isEnding, ofMove_append, ofMove_append,
      commits_rollbackRequests, commits_closeRequests, List.append_nil, List.append_nil]
  have noCommit : ∀ request ∈ ending control source body world, request.move ≠ .commit := by
    rw [isEnding, ← ofMove_eq_nil_iff, ofMove_append, commits_rollbackRequests,
      commits_closeRequests, List.append_nil]
  constructor
  · intro rule
    rw [← sameCommits]
    exact rule.clean failure failed
  · intro bodyClean
    refine ⟨?_, ?_, ?_, ?_, ?_⟩
    · rw [sameCommits, bodyClean]
      exact Nat.zero_le 1
    · intro _ _
      rw [sameCommits, bodyClean]
    · intro _ _ isOpen
      obtain ⟨request, member, isRollback⟩ := exists_mem_rollbackRequests isOpen
      exact ⟨request, by rw [isEnding]; exact List.mem_append_left _ member, isRollback⟩
    · intro earlier commit later split isCommit
      refine absurd isCommit (noCommit commit ?_)
      rw [split]
      exact List.mem_append_right _ (List.mem_cons_self ..)
    · intro _
      cases ran : (runUnit control source body world).1 with
      | error other => exact ⟨other, rfl⟩
      | ok value =>
          have succeeded := (runUnit_eq_ok isEntered ran).1
          rw [failed] at succeeded
          cases succeeded

/-- With a body that does not fail, the rule takes a commit that is not interrupted in an open
transaction. -/
theorem rollsBack_of_ok {value : α}
    (succeeded : (bodyRun control source body world).1 = .ok value) :
    RollsBack control source body world ↔
      ofMove .commit (bodyRun control source body world).2.world.requests = [] ∧
        ∀ failure, (control.commit (worldAfterBody control source body world)).1 = .error failure →
          control.inTransaction (control.commit (worldAfterBody control source body world)).2 = true →
            failure.isOrdinary = true := by
  obtain ⟨last, isEnding⟩ := ending_of_ok isBody isEntered succeeded
  have sameCommits : (ofMove .commit (runUnit control source body world).2.world.requests).length =
      (ofMove .commit (bodyRun control source body world).2.world.requests).length + 1 := by
    rw [requests_runUnit isBody isEntered, isEnding, ofMove_append, ofMove_append,
      commits_commitRequests, commits_closeRequests, List.append_nil, List.length_append,
      List.length_singleton]
  constructor
  · intro rule
    refine ⟨?_, fun failure failed isOpen => ?_⟩
    · have atMost := rule.once
      rw [sameCommits] at atMost
      exact List.eq_nil_of_length_eq_zero (by omega)
    · have follows := rule.commitFailed [] _ _ isEnding rfl (by rw [failed]; exact nofun) isOpen
      obtain ⟨request, member, isRollback⟩ := follows
      rcases List.mem_append.1 member with member | member
      · rw [failed] at member
        exact (exists_mem_salvageRequests_iff isOpen).1 ⟨request, member, isRollback⟩
      · rw [move_of_mem_closeRequests member] at isRollback
        cases isRollback
  · rintro ⟨bodyClean, ordinary⟩
    have noFailure : ∀ failure, (bodyRun control source body world).1 ≠ .error failure := by
      rw [succeeded]
      exact nofun
    refine ⟨?_, fun failure failed => absurd failed (noFailure failure),
      fun failure failed => absurd failed (noFailure failure), ?_, ?_⟩
    · rw [sameCommits, bodyClean]
      exact Nat.le_refl 1
    · intro earlier commit later split isCommit failed isOpen
      rw [isEnding] at split
      obtain ⟨rfl, rfl⟩ := eq_commit_of_split split isCommit
      cases result : (control.commit (worldAfterBody control source body world)).1 with
      | ok _ => exact absurd (by rw [result]; rfl) failed
      | error failure =>
          obtain ⟨request, member, isRollback⟩ :=
            (exists_mem_salvageRequests_iff isOpen).2 (ordinary failure result isOpen)
          exact ⟨request, List.mem_append_left _ member, isRollback⟩
    · rintro (⟨failure, failed⟩ | ⟨commit, member, isCommit, failed⟩)
      · exact absurd failed (noFailure failure)
      · cases ran : (runUnit control source body world).1 with
        | error other => exact ⟨other, rfl⟩
        | ok value =>
            obtain ⟨earlier, later, split⟩ := List.append_of_mem member
            rw [isEnding] at split
            obtain ⟨rfl, _⟩ := eq_commit_of_split split isCommit
            refine absurd ?_ failed
            rw [commit_of_runUnit_ok isBody isEntered ran]
            rfl

/-- The transaction of a unit of work ends by the rule exactly if the body does not commit and the
commit is not interrupted in an open transaction. -/
theorem rollsBack_iff :
    RollsBack control source body world ↔
      ofMove .commit (bodyRun control source body world).2.world.requests = [] ∧
        ∀ value failure, (bodyRun control source body world).1 = .ok value →
          (control.commit (worldAfterBody control source body world)).1 = .error failure →
            control.inTransaction (control.commit (worldAfterBody control source body world)).2 =
              true → failure.isOrdinary = true := by
  cases ran : (bodyRun control source body world).1 with
  | error failure =>
      rw [rollsBack_of_failed isBody isEntered ran]
      exact (and_iff_left fun _ _ impossible => nomatch impossible).symm
  | ok value =>
      rw [rollsBack_of_ok isBody isEntered ran]
      exact and_congr_right fun _ => ⟨fun ordinary _ failure _ => ordinary failure,
        fun ordinary failure => ordinary value failure rfl⟩

end Entered

/-! ## Sessions that fail -/

/-- A body that leaves a word in the world and is interrupted. -/
def interruptedBody : Action (UnitState (Traced ControlScript)) Unit := do
  unnoted (ControlScript.step "statement" true)
  throw (.foreign .interrupted)

/-- A session that does not roll back. -/
def stubbornScript : ControlScript where
  failures := [("rollback", "no rollback")]

/-- An interrupted body is rolled back even where rolling back fails, and a body that commits by
itself is not the only one to commit. -/
theorem rollsBack_iff_scripted :
    (RollsBack ControlScript.control .created interruptedBody stubbornScript ∧
      (bodyRun ControlScript.control .created interruptedBody stubbornScript).1 =
        .error (.foreign .interrupted)) ∧
      ¬ RollsBack ControlScript.control .created (commit ControlScript.control.traced) {} := by
  have isBody : Body interruptedBody := .bind (.unnoted _) fun _ => .throw _
  have entered : (entering ControlScript.control .created stubbornScript).1 = .ok () := rfl
  have interrupted : (bodyRun ControlScript.control .created interruptedBody stubbornScript).1 =
    .error (.foreign .interrupted) := rfl
  refine ⟨⟨(rollsBack_iff isBody entered).2 ⟨rfl, fun _ _ impossible => ?_⟩, interrupted⟩, ?_⟩
  · rw [interrupted] at impossible
    cases impossible
  · intro rule
    exact List.cons_ne_nil _ _ ((rollsBack_iff Body.commit rfl).1 rule).1

/-- A session with a commit that is interrupted. All that there is to it is whether it has a
transaction. -/
def interruptedControl : SessionControl Bool where
  create := pure true
  inTransaction isOpen := isOpen
  begin := set true
  commit := throw (.foreign .interrupted)
  rollback := set false
  close := pure ()

/-- The transaction of a commit that is interrupted stays open: there is no attempt to roll it back.
And where a body commits, there is one more commit after it. -/
theorem interrupted_commit_stays_open :
    ((entering interruptedControl .borrowed false).1 = .ok () ∧
      ¬ RollsBack interruptedControl .borrowed (pure ()) false ∧
        (runUnit interruptedControl .borrowed (pure ()) false).2.world.world = true) ∧
      (entering ControlScript.control .borrowed {}).1 = .ok () ∧
        ¬ RollsBack ControlScript.control .borrowed (commit ControlScript.control.traced) {} := by
  refine ⟨⟨rfl, fun rule => ?_, rfl⟩, rfl, fun rule => ?_⟩
  · have follows := rule.commitFailed [] ⟨.commit, some (.foreign .interrupted), true⟩ [] rfl rfl
      nofun rfl
    obtain ⟨request, member, _⟩ := follows
    exact List.not_mem_nil member
  · have twice : (ofMove .commit (runUnit ControlScript.control .borrowed
        (commit ControlScript.control.traced) {}).2.world.requests).length = 2 := rfl
    have atMost := rule.once
    omega

end UnitOfWork

end RecordGraph
