import RecordGraph.Proofs.Execution.Action

/-!
Contract: actions that do not tell worlds apart.

Owns: `Action.Agrees`, its composition, and what a body that agrees gives in a scope that does.
Does not own: which worlds are alike, and which actions agree.

Two runs of one action are compared. They agree if they have the same result in worlds that are
related before, and leave related worlds; what is related may change on the way.
-/

namespace RecordGraph

variable {σ α β : Type} {before middle after : σ → σ → Prop}

/-- Whether an action gives the same in worlds that are related before, and relates the worlds that
it leaves. -/
def Action.Agrees (before after : σ → σ → Prop) (action : Action σ α) : Prop :=
  ∀ left right, before left right →
    (action left).1 = (action right).1 ∧ after (action left).2 (action right).2

namespace Action.Agrees

theorem pure (value : α) : Agrees before before (pure value : Action σ α) :=
  fun _ _ related => ⟨rfl, related⟩

theorem throw (failure : Error) : Agrees before before (throw failure : Action σ α) :=
  fun _ _ related => ⟨rfl, related⟩

/-- What comes next runs in the worlds that the first part leaves, or not at all. -/
theorem bind {action : Action σ α} {next : α → Action σ β} (first : Agrees before middle action)
    (second : ∀ value, Agrees middle after (next value))
    (stops : ∀ left right, middle left right → after left right) :
    Agrees before after (action >>= next) := by
  intro left right related
  obtain ⟨same, stillRelated⟩ := first left right related
  cases ranLeft : action left with
  | mk leftResult leftWorld =>
      cases ranRight : action right with
      | mk rightResult rightWorld =>
          rw [ranLeft, ranRight] at same stillRelated
          cases same
          cases leftResult with
          | ok value =>
              rw [bind_of_ok ranLeft, bind_of_ok ranRight]
              exact second value leftWorld rightWorld stillRelated
          | error failure =>
              rw [bind_of_error ranLeft, bind_of_error ranRight]
              exact ⟨rfl, stops leftWorld rightWorld stillRelated⟩

/-- A computation that needs no world, and what its value is used for. -/
theorem ofExcept_bind {result : Result α} {next : α → Action σ β}
    (second : ∀ value, result = .ok value → Agrees before after (next value))
    (stops : ∀ left right, before left right → after left right) :
    Agrees before after ((MonadExcept.ofExcept result : Action σ α) >>= next) := by
  cases result with
  | error failure => exact fun left right related => ⟨rfl, stops left right related⟩
  | ok value => exact second value rfl

theorem ofExcept (result : Result α) :
    Agrees before before (MonadExcept.ofExcept result : Action σ α) := by
  cases result with
  | error failure => exact throw failure
  | ok value => exact pure value

/-- An action whose outcome is looked at agrees if it agrees itself. -/
theorem lift_run {action : Action σ α} (agrees : Agrees before after action) :
    Agrees before after (ExceptT.lift action.run : Action σ (Except Error α)) := by
  intro left right related
  rw [lift_run_apply, lift_run_apply]
  exact ⟨congrArg Except.ok (agrees left right related).1, (agrees left right related).2⟩

end Action.Agrees

/-- Whether a scope does not tell worlds apart. -/
structure Scope.Agrees (scope : Scope σ) (alike : σ → σ → Prop) : Prop where
  enter : scope.enter.Agrees alike alike
  leave : ∀ failure, (scope.leave failure).Agrees alike fun _ _ => True

/-- A body that agrees gives the same in a scope that does. -/
theorem Scope.Agrees.within {scope : Scope σ} {alike : σ → σ → Prop} {body : Action σ α}
    (agrees : scope.Agrees alike) (bodyAgrees : body.Agrees alike alike) :
    (scope.within body).Agrees alike fun _ _ => True := by
  unfold Scope.within
  refine agrees.enter.bind (fun _ => ?_) fun _ _ _ => trivial
  refine bodyAgrees.lift_run.bind (fun outcome => ?_) fun _ _ _ => trivial
  cases outcome with
  | ok result => exact (agrees.leave none).bind (fun _ => .pure result) fun _ _ => id
  | error failure =>
      exact (agrees.leave (some failure)).bind (fun _ => .throw failure) fun _ _ => id

theorem Scope.entered_agrees (alike : σ → σ → Prop) : Scope.entered.Agrees alike where
  enter := .pure ()
  leave _ _ _ _ := ⟨rfl, trivial⟩

end RecordGraph
