import RecordGraph.Proofs.Plan.Roots
import RecordGraph.Proofs.Repository.Write
import RecordGraph.Proofs.Store.Transaction

/-!
Contract: calls of the writing operations of a repository.

Owns: `WriteCall`, and that every call is all or nothing.
Does not own: the statements of single operations.
-/

namespace RecordGraph

open RecordGraph.Sql

variable {σ Data : Type} {control : SessionControl σ} {session : Session σ}

/-- A call of a writing operation, by the type of its value. -/
inductive WriteCall (σ : Type) : Type → Type where
  | insertGraph (payload : Payload) (allow : AllowSource Filter)
      (conflict : Option ConflictPolicy) (cancel : Option (σ → Bool)) : WriteCall σ Value
  | insert (values : Record) (conflict : Option ConflictPolicy) : WriteCall σ (Option Record)
  | insertReturning (rows : List Record) (conflict : Option ConflictPolicy) :
      WriteCall σ (List Record)
  | patchById (key : Value) (values : Record) : WriteCall σ (Option Record)
  | deleteById (key : Value) : WriteCall σ Int
  | insertRelated (owner : Value) (relation : String) (values : Record) :
      WriteCall σ (Option Record)
  | relate (owner : Value) (relation : String) (target : Value) : WriteCall σ (Option Record)

namespace WriteCall

variable {α : Type}

def perform (repository : Repository (Workplace σ)) : WriteCall σ α → Action (Workplace σ) α
  | .insertGraph payload allow conflict cancel =>
      repository.insertGraph payload allow conflict (watched cancel)
  | .insert values conflict => repository.insert values conflict
  | .insertReturning rows conflict => repository.insertReturning rows conflict
  | .patchById key values => repository.patchById key values
  | .deleteById key => repository.deleteById key
  | .insertRelated owner relation values => do
      let query ← Repository.lift (RelatedQuery.make repository owner relation)
      query.insert values
  | .relate owner relation target => do
      let query ← Repository.lift (RelatedQuery.make repository owner relation)
      query.relate target

def cancelEvent : WriteCall σ α → Option (σ → Bool)
  | .insertGraph _ _ _ cancel => cancel
  | _ => none

/-- Whether a call asks for nothing. -/
def isVacuous : WriteCall σ α → Bool
  | .insertReturning rows _ => rows.isEmpty
  | _ => false

/-- What is expected of the statements of a successful call: a graph insert is the execution of its
plan. -/
def Expects (registry : Registry) (entity : Entity) (config : Config) (dialect : Dialect) :
    WriteCall σ α → α → List Statement → Prop
  | .insertGraph payload allow conflict _ => fun value statements => ∃ plan rows,
      InsertPlan.make registry config entity.name payload allow conflict = .ok plan ∧
        InsertsInOrder dialect config.useReturning [] plan.operations statements rows ∧
          value = plan.assemble rows
  | _ => fun _ _ => True

theorem scoped_perform (laws : Transactional control session Data) (registry : Registry)
    (entity : Entity) (config : Config) (scope : Option (Scope (Workplace σ)))
    (call : WriteCall σ α) (asks : call.isVacuous = false) :
    Scoped laws call.cancelEvent (call.Expects registry entity config session.dialect) scope
      (call.perform (Repository.over registry entity config session scope)) := by
  cases call with
  | insertGraph payload allow conflict cancel => exact scoped_insertGraph payload allow conflict
  | insert values conflict => exact scoped_insert values conflict
  | insertReturning rows conflict => exact scoped_insertReturning asks conflict
  | patchById key values => exact scoped_patchById key values
  | deleteById key => exact scoped_deleteById key
  | insertRelated owner relation values =>
      refine Scoped.after fun query made => ?_
      exact RelatedQuery.scoped_insert (RelatedQuery.repository_of_make made) values
  | relate owner relation target =>
      refine Scoped.after fun query made => ?_
      exact RelatedQuery.scoped_relate (RelatedQuery.repository_of_make made) target

theorem perform_vacuous (registry : Registry) (entity : Entity) (config : Config)
    (scope : Option (Scope (Workplace σ))) (conflict : Option ConflictPolicy) :
    (insertReturning [] conflict).perform (Repository.over registry entity config session scope) =
      pure [] :=
  rfl

theorem runs_perform_borrowed (laws : Transactional control session Data) (registry : Registry)
    (entity : Entity) (config : Config) (call : WriteCall σ α) :
    Runs laws call.cancelEvent
      (call.perform (Repository.over registry entity config session (some Scope.entered)))
      (call.Expects registry entity config session.dialect) := by
  cases isVacuous : call.isVacuous with
  | false => exact (scoped_perform laws registry entity config _ call isVacuous).borrowed
  | true =>
      cases call with
      | insertReturning rows conflict =>
          have isNil := List.isEmpty_iff.1 isVacuous
          rw [isNil, perform_vacuous]
          exact Runs.mono (.pure []) fun _ _ _ => trivial
      | _ => cases isVacuous

/-- Writing calls are all or nothing. With a unit of work of its own, a call that fails leaves the
stored data as they were, and a call that succeeds is one transaction, committed once and after its
last statement. In the caller's unit of work a call only issues statements. An insert of no rows
does nothing at all. -/
theorem all_or_nothing (laws : Transactional control session Data) (registry : Registry)
    (entity : Entity) (config : Config) (call : WriteCall σ α) (hasFactory : Bool)
    {before : Workplace σ} (closed : control.inTransaction before.world.world = false) :
    let fresh := Repository.over registry entity config session
      (if hasFactory then some (unitScope control) else none)
    let borrowed := Repository.over registry entity config session (some Scope.entered)
    (call.isVacuous = false →
      AllOrNothing laws call.cancelEvent (call.Expects registry entity config session.dialect)
        before (call.perform fresh before).1 (call.perform fresh before).2) ∧
    (∀ conflict, (insertReturning [] conflict).perform fresh before = (.ok [], before)) ∧
    Runs laws call.cancelEvent (call.perform borrowed)
      (call.Expects registry entity config session.dialect) := by
  refine ⟨fun asks => ?_, fun conflict => ?_, ?_⟩
  · exact (scoped_perform laws registry entity config _ call asks).allOrNothing closed
  · rw [perform_vacuous]
    rfl
  · exact runs_perform_borrowed laws registry entity config call

end WriteCall

/-! ## A family is stored -/

namespace Family

/-- A unit of work over the empty tables of the family. -/
def workplace : Workplace Database where
  world := { world := { store := Store.empty schema } }
  holdsSession := false

/-- The insert of a household, unless three statements have been issued before. -/
def moveIn : WriteCall Database Value :=
  .insertGraph household (.expression .absent) none
    (some fun database => decide (3 ≤ database.log.length))

theorem moveIn_all_or_nothing :
    Database.control.inTransaction workplace.world.world = false ∧ moveIn.isVacuous = false ∧
      AllOrNothing Database.transactional moveIn.cancelEvent
        (moveIn.Expects registry person {} .sqlite) workplace
        (moveIn.perform (Repository.over registry person {} Database.session
          (some (unitScope Database.control))) workplace).1
        (moveIn.perform (Repository.over registry person {} Database.session
          (some (unitScope Database.control))) workplace).2 := by
  have closed : Database.control.inTransaction workplace.world.world = false := rfl
  have asks : moveIn.isVacuous = false := rfl
  refine ⟨closed, asks, ?_⟩
  exact (WriteCall.all_or_nothing Database.transactional registry person {} moveIn true closed).1
    asks

end Family

end RecordGraph
