import RecordGraph.Proofs.Repository.Write
import RecordGraph.Proofs.Value.Record

/-!
Contract: calls in a unit of work of their own, and calls in that of the caller.

Owns: `Venue`, what a body sees and leaves at either, and the repositories that are made for them.
Does not own: what bodies do.
-/

namespace RecordGraph

variable {σ Data : Type} {control : SessionControl σ} {session : Session σ}

/-- Where a call runs: in a unit of work of its own, or in the one that the caller has entered. -/
inductive Venue where
  | own
  | caller
deriving DecidableEq, Repr

namespace Venue

def scope (control : SessionControl σ) : Venue → Scope (Workplace σ)
  | .own => unitScope control
  | .caller => Scope.entered

/-- Whether a call can be made: no transaction is open yet, or that of the caller is. -/
def Ready (control : SessionControl σ) : Venue → Workplace σ → Prop
  | .own, state => control.inTransaction state.world.world = false
  | .caller, state => Opened control state

/-- The data that a call sees: those that are committed, or those of the caller's transaction. -/
def data (laws : Transactional control session Data) : Venue → Workplace σ → Data
  | .own, state => laws.stored state.world.world
  | .caller, state => laws.current state.world.world

variable {α : Type} {venue : Venue} {body : Action (Workplace σ) α} {before after : Workplace σ}

/-- A body that succeeded saw the data of its venue, and left there what it left in its
transaction. -/
theorem within_eq_ok (laws : Transactional control session Data) (ready : venue.Ready control before)
    {value : α} (ran : (venue.scope control).within body before = (.ok value, after)) :
    ∃ entered middle, Opened control entered ∧
      laws.current entered.world.world = venue.data laws before ∧
        body entered = (.ok value, middle) ∧
          (Opened control middle → venue.data laws after = laws.current middle.world.world) := by
  cases venue with
  | own => exact within_unit_eq_ok laws ready ran
  | caller =>
      change Scope.entered.within body before = _ at ran
      rw [Scope.entered_within] at ran
      exact ⟨before, after, ready, rfl, ran, fun _ => rfl⟩

/-- A body that succeeds on the data of its venue succeeds there. -/
theorem within_of_ok {isGood : α → Prop} (laws : Transactional control session Data)
    (ready : venue.Ready control before)
    (succeeds : ∀ entered, Opened control entered →
      laws.current entered.world.world = venue.data laws before →
        ∃ value middle, body entered = (.ok value, middle) ∧ Opened control middle ∧ isGood value) :
    ∃ value after, (venue.scope control).within body before = (.ok value, after) ∧ isGood value := by
  cases venue with
  | own => exact within_unit_of_ok laws ready succeeds
  | caller =>
      obtain ⟨value, middle, ran, _, good⟩ := succeeds before ready rfl
      refine ⟨value, middle, ?_, good⟩
      change Scope.entered.within body before = _
      rw [Scope.entered_within]
      exact ran

end Venue

namespace Repository

/-- The repository of an entity over a session, with its calls at a venue. -/
def makeAt (venue : Venue) (registry : Registry) (entity : String) (config : Config)
    (control : SessionControl σ) (session : Session σ) : Result (Repository (Workplace σ)) :=
  make registry entity config (some (venue.scope control))
    (Executor.ofSession session.journaled.inUnit)

theorem makeAt_eq_ok {venue : Venue} {registry : Registry} {name : String} {config : Config}
    {repository : Repository (Workplace σ)}
    (isMade : makeAt venue registry name config control session = .ok repository) :
    registry.frozen = true ∧ ∃ entity, registry.entity name = .ok entity ∧
      repository = Repository.over registry entity config session (some (venue.scope control)) := by
  obtain ⟨entity, found, isMade⟩ := Result.bind_eq_ok.1 isMade
  obtain ⟨_, required, isMade⟩ := Result.bind_eq_ok.1 isMade
  refine ⟨?_, entity, found, (Result.pure_eq_ok.1 isMade).symm⟩
  unfold Registry.requireFrozen at required
  split at required
  · assumption
  · cases required

theorem getD_of_lookUp {row : Record} {name : String} {value : Value}
    (found : lookUp row name = .ok value) : row.getD name = value := by
  unfold lookUp at found
  split at found
  · rename_i isValue
    cases Result.pure_eq_ok.1 found
    exact Record.getD_of_get? isValue
  · exact absurd found Result.throw_ne_ok

end Repository

/-- The query of a relation of a repository's entity. -/
theorem RelatedQuery.make_eq_ok {repository : Repository (Workplace σ)} {owner : Value}
    {name : String} {query : RelatedQuery (Workplace σ)}
    (made : RelatedQuery.make repository owner name = .ok query) :
    query.repository = repository ∧ query.owner = owner ∧
      repository.registry.resolve repository.entity.name name = .ok query.relation ∧
        repository.registry.entity query.relation.target = .ok query.target := by
  obtain ⟨relation, resolves, made⟩ := Result.bind_eq_ok.1 made
  obtain ⟨target, found, made⟩ := Result.bind_eq_ok.1 made
  cases Result.pure_eq_ok.1 made
  exact ⟨rfl, rfl, resolves, found⟩

end RecordGraph
