import RecordGraph.Proofs.Execution.Action

/-!
Contract: what reaches a session, and what a session promises about its data.

Owns: `Journaled` worlds, sessions and transaction control that keep a journal, and
`Transactional`, the promises of a session.
Does not own: any particular session, and the use of sessions.

The journal is only looked at from outside: a journaled session answers as the session itself does.
-/

namespace RecordGraph

open RecordGraph.Sql

/-- A statement that was issued, its course, and the world in which it was issued. -/
structure Issue (σ : Type) where
  statement : Statement
  reply : Reply
  before : σ

inductive Event (σ : Type) where
  | begun
  | issued (issue : Issue σ)
  | committed
  | rolledBack

/-- A world with the journal of what has reached its session. -/
structure Journaled (σ : Type) where
  world : σ
  journal : List (Event σ) := []

namespace Journaled

variable {σ α : Type}

/-- An action that leaves no trace in the journal. -/
def quiet (action : Action σ α) : Action (Journaled σ) α :=
  fun state => ((action state.world).1, { state with world := (action state.world).2 })

/-- An action that is noted in the journal, whether or not it succeeds. -/
def noted (event : Event σ) (action : Action σ α) : Action (Journaled σ) α :=
  fun state => ((action state.world).1,
    { world := (action state.world).2, journal := state.journal ++ [event] })

end Journaled

def Session.journaled {σ : Type} (session : Session σ) : Session (Journaled σ) where
  dialect := session.dialect
  run statement state :=
    ((session.run statement state.world).1, {
      world := (session.run statement state.world).2
      journal := state.journal ++
        [.issued ⟨statement, (session.run statement state.world).1, state.world⟩] })

/-- A session in the world of a unit of work. -/
def Session.inUnit {σ : Type} (session : Session σ) : Session (UnitState σ) where
  dialect := session.dialect
  run statement state :=
    ((session.run statement state.world).1,
      { state with world := (session.run statement state.world).2 })

def SessionControl.journaled {σ : Type} (control : SessionControl σ) :
    SessionControl (Journaled σ) where
  create := Journaled.quiet control.create
  inTransaction state := control.inTransaction state.world
  begin := Journaled.noted .begun control.begin
  commit := Journaled.noted .committed control.commit
  rollback := Journaled.noted .rolledBack control.rollback
  close := Journaled.quiet control.close

/-- What a session promises about the data of its database. Beginning, committing, rolling back and
closing succeed; statements may fail in any way. -/
structure Transactional {σ : Type} (control : SessionControl σ) (session : Session σ)
    (Data : Type) where
  /-- The data that others see. -/
  stored : σ → Data
  /-- The data that the open transaction sees. -/
  current : σ → Data
  /-- What a statement that succeeds may do to the data. -/
  Effect : Statement → Data → Data → Prop
  create : ∀ world, control.inTransaction world = false →
    ∃ after, control.create world = (.ok true, after) ∧
      control.inTransaction after = false ∧ stored after = stored world
  begin : ∀ world, control.inTransaction world = false →
    ∃ after, control.begin world = (.ok (), after) ∧ control.inTransaction after = true ∧
      stored after = stored world ∧ current after = stored world
  run : ∀ statement world, control.inTransaction world = true →
    control.inTransaction (session.run statement world).2 = true ∧
      stored (session.run statement world).2 = stored world ∧
        ∀ cursor, (session.run statement world).1 = .done cursor →
          Effect statement (current world) (current (session.run statement world).2)
  commit : ∀ world, control.inTransaction world = true →
    ∃ after, control.commit world = (.ok (), after) ∧ stored after = current world
  rollback : ∀ world, control.inTransaction world = true →
    ∃ after, control.rollback world = (.ok (), after) ∧ stored after = stored world
  close : ∀ world, ∃ after, control.close world = (.ok (), after) ∧ stored after = stored world

/-- The effect of statements, one after the other. -/
inductive Effects {Data : Type} (effect : Statement → Data → Data → Prop) :
    List Statement → Data → Data → Prop where
  | nil (data : Data) : Effects effect [] data data
  | cons {statement : Statement} {statements : List Statement} {first second last : Data}
      (head : effect statement first second) (tail : Effects effect statements second last) :
      Effects effect (statement :: statements) first last

theorem Effects.append {Data : Type} {effect : Statement → Data → Data → Prop}
    {earlier later : List Statement} {first second last : Data}
    (left : Effects effect earlier first second) (right : Effects effect later second last) :
    Effects effect (earlier ++ later) first last := by
  induction left with
  | nil data => exact right
  | cons head tail inductionHypothesis => exact .cons head (inductionHypothesis right)

end RecordGraph
