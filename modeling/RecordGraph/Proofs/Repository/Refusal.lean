import RecordGraph.Proofs.Execution.Sending
import RecordGraph.Proofs.Filter
import RecordGraph.Proofs.Repository.Call
import RecordGraph.Proofs.Repository.Disclosure
import RecordGraph.Proofs.Store.Lookup

/-!
Contract: when a fetch fails with an error of planning.

Owns: the errors of levels and of whole fetches, and what has been sent to the session when they
arise.
Does not own: which requests planning accepts, and what units of work and executors send.

Planning applies the filter of the root, so that a root filter that does not fit is refused before
the unit of work is entered. The filters of levels are applied when their queries are built, which
is after the root query.
-/

namespace RecordGraph

open RecordGraph.Sql RecordGraph.Action

variable {σ : Type}

/-! ## Levels -/

namespace FetchLevel

variable {level : FetchLevel} {failure : Error}

/-- Whether the filter of a level does not fit what the level selects, and how it fails. -/
def Misfits (level : FetchLevel) (failure : Error) : Prop :=
  Filter.applyOptional level.filter level.statement = .error failure

/-- Whether the query of a level can be built does not depend on the keys. -/
theorem misfits_of_build {keys : List Value} (failed : level.build keys = .error failure) :
    level.Misfits failure :=
  Filter.applyOptional_eq_error failed ⟨rfl, rfl⟩

theorem keysFrom_fails_late {parents : List Record} : ∀ {seen : List Value},
    level.keysFrom seen parents = .error failure → failure.isPlanning = false := by
  induction parents with
  | nil => exact fun impossible => nomatch impossible
  | cons row rest inductionHypothesis =>
      intro seen failed
      unfold keysFrom at failed
      dsimp only at failed
      split at failed
      · exact inductionHypothesis failed
      · split at failed
        · exact inductionHypothesis failed
        · cases failed
          rfl

theorem keyedRows_fails_late {rows : List Record} (failed : level.keyedRows rows = .error failure) :
    failure.isPlanning = false := by
  obtain ⟨row, _, failed⟩ := Result.exists_of_mapM_eq_error failed
  unfold keyed at failed
  split at failed
  · cases failed
    rfl
  · split at failed
    · cases failed
    · cases failed
      rfl

end FetchLevel

/-- Whether no filter of a level fails with an error of planning. -/
def FetchPlan.Fits (plan : FetchPlan) : Prop :=
  ∀ level ∈ plan.levels, ∀ failure, level.Misfits failure → failure.isPlanning = false

namespace Repository

section Levels

variable {executor : Executor (Workplace σ)} (selects : executor.Selects)

include selects

theorem sends_fetchLevel (level : FetchLevel) (parents : List Record) :
    (fetchLevel executor level parents).Sends Statement.IsSelection := by
  have keyed : ∀ rows, Sends Statement.IsSelection
      (lift (level.keyedRows rows) : Action (Workplace σ) _) := fun rows => .ofExcept _
  refine (Sends.ofExcept (level.keys parents)).bind fun keys => ?_
  dsimp only
  split
  · exact keyed []
  · refine (Sends.ofExcept (level.build keys)).bind fun query => ?_
    exact (selects.sends query).bind keyed

/-- A level fails with an error of planning only if its filter does not fit. -/
theorem failsOnly_fetchLevel (level : FetchLevel) (parents : List Record) :
    (fetchLevel executor level parents).FailsOnly
      fun failure => failure.isPlanning = true → level.Misfits failure := by
  have ofLate : ∀ {failure : Error}, failure.isPlanning = false → failure.isPlanning = true →
      level.Misfits failure := fun isLate isPlanning =>
    absurd (isLate.symm.trans isPlanning) Bool.false_ne_true
  have keyed : ∀ rows, FailsOnly (fun failure => failure.isPlanning = true → level.Misfits failure)
      (lift (level.keyedRows rows) : Action (Workplace σ) _) :=
    fun rows => .ofExcept fun failure failed => ofLate (FetchLevel.keyedRows_fails_late failed)
  refine FailsOnly.bind (.ofExcept fun failure failed =>
    ofLate (FetchLevel.keysFrom_fails_late failed)) fun keys => ?_
  dsimp only
  split
  · exact keyed []
  · refine FailsOnly.bind (.ofExcept fun failure failed _ =>
      FetchLevel.misfits_of_build failed) fun query => ?_
    exact ((selects.late query).mono fun failure => ofLate).bind keyed

theorem sends_fetchLevels (roots : List Record) (levels : List FetchLevel) :
    ∀ fetched, (fetchLevels executor roots fetched levels).Sends Statement.IsSelection := by
  induction levels with
  | nil => exact fun fetched => .pure fetched
  | cons level rest inductionHypothesis =>
      exact fun fetched => (sends_fetchLevel selects level _).bind fun rows => inductionHypothesis _

theorem failsOnly_fetchLevels (roots : List Record) (levels : List FetchLevel) :
    ∀ fetched, (fetchLevels executor roots fetched levels).FailsOnly
      fun failure => failure.isPlanning = true → ∃ level ∈ levels, level.Misfits failure := by
  induction levels with
  | nil => exact fun fetched => .pure fetched
  | cons level rest inductionHypothesis =>
      intro fetched
      refine ((failsOnly_fetchLevel selects level _).mono ?_).bind fun rows =>
        (inductionHypothesis _).mono ?_
      · exact fun failure misfits isPlanning =>
          ⟨level, List.mem_cons_self .., misfits isPlanning⟩
      · intro failure misfits isPlanning
        obtain ⟨other, member, isMisfit⟩ := misfits isPlanning
        exact ⟨other, List.mem_cons_of_mem _ member, isMisfit⟩

/-- An error of planning that arises while a plan is executed comes after the root query, and from a
level whose filter does not fit. -/
theorem executeFetchPlan_planning_error {plan : FetchPlan} {before after : Workplace σ}
    {failure : Error} (isPlanning : failure.isPlanning = true)
    (ran : executeFetchPlan plan executor before = (.error failure, after)) :
    (∃ queries : List Select, Workplace.sent after =
      Workplace.sent before ++ (plan.root :: queries).map .select) ∧
      ∃ level ∈ plan.levels, level.Misfits failure := by
  unfold executeFetchPlan at ran
  cases rootRan : executor.fetchAll plan.root before with
  | mk result middle =>
      cases result with
      | error other =>
          have isLate := selects.late plan.root before other (congrArg Prod.fst rootRan)
          rw [bind_of_error rootRan] at ran
          cases ran
          exact absurd (isLate.symm.trans isPlanning) Bool.false_ne_true
      | ok roots =>
          have sends := (sends_fetchLevels selects roots plan.levels []).bind
            (fun fetched => .pure (plan.assemble roots fetched)) middle
          have fails := (failsOnly_fetchLevels selects roots plan.levels []).bind
            (fun fetched => .pure (plan.assemble roots fetched)) middle
          rw [bind_of_ok rootRan] at ran
          rw [ran] at sends fails
          obtain ⟨statements, sent, areSelections⟩ := sends
          obtain ⟨queries, rfl⟩ := (Set.range_list_map Statement.select).ge areSelections
          refine ⟨⟨queries, ?_⟩, fails failure rfl isPlanning⟩
          rw [sent, selects.sent rootRan, List.append_assoc]
          rfl

end Levels

/-! ## Fetches -/

/-- Whether nothing has been sent when an action fails with an error of planning. -/
def RefusesEarly {α : Type} (action : Action (Workplace σ) α) : Prop :=
  ∀ before failure after, action before = (.error failure, after) → failure.isPlanning = true →
    Workplace.sent after = Workplace.sent before

/-- Whether an action that fails with an error of planning does so in every world. -/
def RefusesAlike {α : Type} (action : Action (Workplace σ) α) : Prop :=
  ∀ failure, failure.isPlanning = true → ∀ left right,
    (action left).1 = .error failure → (action right).1 = .error failure

/-- Where an error of planning comes from that a fetch fails with: from planning, before anything was
done, or from the filter of a level that does not fit, after the root query. -/
inductive Refused (planned : Result FetchPlan) (before after : Workplace σ) (failure : Error) :
    Prop where
  | early (inPlanning : planned = .error failure) (untouched : after = before)
  | late {plan : FetchPlan} {level : FetchLevel} (queries : List Select)
      (made : planned = .ok plan)
      (sent : Workplace.sent after =
        Workplace.sent before ++ (plan.root :: queries).map .select)
      (isLevel : level ∈ plan.levels) (misfits : level.Misfits failure)

/-- Where the filters of levels fit, an error of planning comes from planning. -/
theorem Refused.early_of_fits {planned : Result FetchPlan} {before after : Workplace σ}
    {failure : Error} (fits : ∀ plan, planned = .ok plan → plan.Fits)
    (isPlanning : failure.isPlanning = true) (refused : Refused planned before after failure) :
    planned = .error failure ∧ after = before := by
  cases refused with
  | early inPlanning untouched => exact ⟨inPlanning, untouched⟩
  | late queries made sent isLevel misfits =>
      have isLate := fits _ made _ isLevel failure misfits
      exact absurd (isLate.symm.trans isPlanning) Bool.false_ne_true

section Fetches

variable {control : SessionControl σ} {session : Session σ} {scope : Option (Scope (Workplace σ))}
  {registry : Registry} {entity : Entity} {config : Config} {filter : Option Filter}
  {eager : ExpressionSource Filter} {allow : AllowSource Filter}
  {filters : List (String × Option Filter)} {cancel : Option (Workplace σ → Bool)}
  {plan : FetchPlan} {before after : Workplace σ} {failure : Error}

/-- What is refused in planning is refused in every world, and leaves it alone. -/
theorem fetch_of_refused (repository : Repository σ)
    (refused : FetchPlan.make repository.registry repository.config repository.entity.name filter
      eager allow filters = .error failure) {cancel : Option (σ → Bool)} (world : σ) :
    repository.fetch filter eager allow filters cancel world = (.error failure, world) :=
  bind_of_error ((ofExcept_apply _ world).trans (by rw [refused]))

/-- What is planned is executed in the unit of work. -/
theorem fetch_of_planned (repository : Repository σ)
    (made : FetchPlan.make repository.registry repository.config repository.entity.name filter
      eager allow filters = .ok plan) {cancel : Option (σ → Bool)} (world : σ) :
    repository.fetch filter eager allow filters cancel world =
      repository.within cancel (executeFetchPlan plan) world :=
  bind_of_ok ((ofExcept_apply _ world).trans (by rw [made]))

theorem refused_of_fetch (late : session.FailsLate)
    (isScope : ∀ own, scope = some own → own = unitScope control ∨ own = Scope.entered)
    (isPlanning : failure.isPlanning = true)
    (ran : (Repository.over registry entity config session scope).fetch filter eager allow filters
      cancel before = (.error failure, after)) :
    Refused (FetchPlan.make registry config entity.name filter eager allow filters) before after
      failure := by
  cases made : FetchPlan.make registry config entity.name filter eager allow filters with
  | error other =>
      cases (fetch_of_refused _ made before).symm.trans ran
      exact .early rfl rfl
  | ok plan =>
      have ran := (fetch_of_planned _ made before).symm.trans ran
      unfold Repository.within at ran
      cases scope with
      | none =>
          cases ran
          cases isPlanning
      | some own =>
          have discreet : own.Discreet := by
            rcases isScope own rfl with rfl | rfl
            · exact Scope.discreet_unitScope control
            · exact Scope.discreet_entered
          obtain ⟨entered, left, sentEntered, bodyRan, sentLeft⟩ :=
            discreet.of_planning_error isPlanning ran
          obtain ⟨⟨queries, sent⟩, level, isLevel, misfits⟩ :=
            executeFetchPlan_planning_error (Executor.selects_ofSession late cancel) isPlanning
              bodyRan
          exact .late queries rfl (by rw [sentLeft, sent, sentEntered]) isLevel misfits

/-- A fetch that fails with an error of planning has failed in planning, before it did anything, or
else the filter of a level does not fit the level, which shows after the root query. If the filters
of all levels fit, errors of planning come before all statements, whatever is stored. -/
theorem fetch_planning_errors (late : session.FailsLate)
    (isScope : ∀ own, scope = some own → own = unitScope control ∨ own = Scope.entered)
    (registry : Registry) (entity : Entity) (config : Config) (filter : Option Filter)
    (eager : ExpressionSource Filter) (allow : AllowSource Filter)
    (filters : List (String × Option Filter)) (cancel : Option (Workplace σ → Bool)) :
    let fetch := (Repository.over registry entity config session scope).fetch filter eager allow
      filters cancel
    let planned := FetchPlan.make registry config entity.name filter eager allow filters
    (∀ before failure after, fetch before = (.error failure, after) → failure.isPlanning = true →
      Refused planned before after failure) ∧
    ((∀ plan, planned = .ok plan → plan.Fits) → RefusesEarly fetch ∧ RefusesAlike fetch) := by
  intro fetch planned
  have refused : ∀ before failure after, fetch before = (.error failure, after) →
      failure.isPlanning = true → Refused planned before after failure :=
    fun _ _ _ ran isPlanning => refused_of_fetch late isScope isPlanning ran
  refine ⟨refused, fun fits => ⟨fun before failure after ran isPlanning => ?_,
    fun failure isPlanning left right failed => ?_⟩⟩
  · have early := (refused before failure after ran isPlanning).early_of_fits fits isPlanning
    rw [early.2]
  · have early := (refused left failure _ (Prod.ext failed rfl) isPlanning).early_of_fits fits
      isPlanning
    exact congrArg Prod.fst (fetch_of_refused _ early.1 right)

end Fetches

end Repository

/-! ## A family is asked for by a column that it lacks -/

namespace Database

theorem refusal?_fails_late {position : Nat} {value : Value} {failure : Error}
    (refused : refusal? position value = some (.other failure)) : failure.isPlanning = false := by
  unfold refusal? at refused
  split at refused
  · split at refused
    · cases refused
    · cases refused
      rfl
  · split at refused
    · cases refused
      rfl
    · cases refused
  · cases refused
  · cases refused
  · cases refused

theorem firstRefusal_fails_late {failure : Error} : ∀ {position : Nat} {values : List Value},
    firstRefusal position values = some (.other failure) → failure.isPlanning = false := by
  intro position values
  induction values generalizing position with
  | nil => exact nofun
  | cons value rest inductionHypothesis =>
      intro refused
      rcases Option.or_eq_some_iff.1 refused with first | ⟨_, later⟩
      · exact refusal?_fails_late first
      · exact inductionHypothesis later

/-- What the database in memory refuses for no reason of its own is no error of planning. -/
theorem session_failsLate : session.FailsLate := by
  intro statement database failure refused
  change (run statement database).1 = _ at refused
  unfold run at refused
  dsimp only at refused
  cases isText : statement.text .sqlite with
  | error fault =>
      rw [isText] at refused
      cases refused
      unfold Statement.text at isText
      split at isText
      · cases isText
        rfl
      · cases isText
  | ok rendered =>
      rw [isText] at refused
      dsimp only at refused
      split at refused
      · cases refused
        rfl
      · rename_i values isBound
        unfold execute at refused
        split at refused
        · rename_i cause _
          cases cause <;> cases refused
        · split at refused
          · rename_i refusal isRefusal
            cases refused
            exact firstRefusal_fails_late isRefusal
          · split at refused
            · rename_i cause _
              cases cause <;> cases refused
            · split at refused
              · cases refused
                rfl
              · cases refused

end Database

namespace Family

open Repository

/-- A unit of work over the tables of a family of two, before it is entered. -/
def occupied : Workplace Database where
  world := { world := worded }
  holdsSession := false

def census : Repository (Workplace Database) :=
  Repository.over registry person {} Database.session (some (unitScope Database.control))

/-- A comparison of a column that no table of the family has. -/
def byNickname : Filter := .compare "nickname" (.compare .equal) (.text "Jo") true

def nicknamed : Action (Workplace Database) (List Record) :=
  census.fetch (some byNickname) (.tree onlyChildren) (.expression .absent) [] none

def childrenNicknamed : Action (Workplace Database) (List Record) :=
  census.fetch none (.tree onlyChildren) (.expression .absent)
    [("children", some byNickname)] none

theorem nicknamed_refused_early :
    Database.session.FailsLate ∧
      (∀ own, some (unitScope Database.control) = some own →
        own = unitScope Database.control ∨ own = Scope.entered) ∧
      nicknamed occupied = (.error (.unselectedColumn "nickname"), occupied) ∧
      RefusesEarly nicknamed ∧ RefusesAlike nicknamed := by
  have isScope : ∀ own, some (unitScope Database.control) = some own →
      own = unitScope Database.control ∨ own = Scope.entered :=
    fun own isOwn => Or.inl (Option.some.inj isOwn).symm
  have refused : FetchPlan.make registry {} "Person" (some byNickname) (.tree onlyChildren)
      (.expression .absent) [] = .error (.unselectedColumn "nickname") := rfl
  obtain ⟨_, early⟩ := Repository.fetch_planning_errors Database.session_failsLate isScope registry
    person {} (some byNickname) (.tree onlyChildren) (.expression .absent) [] none
  refine ⟨Database.session_failsLate, isScope, rfl, early fun plan made => ?_⟩
  cases refused.symm.trans made

/-- The plan for children by a column that they lack. -/
def childrenPlan : FetchPlan where
  entity := person
  root := .ofTable personTable
  levels := [{
    index := 1, parent := 0, path := "children", relation := children, entity := person
    ownerColumn := "id", matchColumn := "parentId", statement := .ofTable personTable
    keyTerm := { column := ⟨"Person", "parentId"⟩, type := .integer }, filter := some byNickname }]

def registrar : Executor (Workplace Database) :=
  Executor.ofSession Database.session.journaled.inUnit none

/-- Fetches the children of persons. -/
def childrenOf (persons : List Record) : Action (Workplace Database) (List Record) := do
  let fetched ← fetchLevels registrar persons [] childrenPlan.levels
  pure (childrenPlan.assemble persons fetched)

/-- All persons are asked for, and then their children. -/
theorem childrenNicknamed_apply {store : Store} {persons : List Record}
    (found : (Select.ofTable personTable).evaluate store = persons)
    {result : Except Error (List Record)}
    (ran : ∀ state, childrenOf persons state = (result, state)) :
    ∃ after, childrenNicknamed ⟨⟨{ store }, []⟩, false⟩ = (result, after) ∧
      Workplace.sent after = [.select (.ofTable personTable)] := by
  obtain ⟨entered, asked, enterRan, rootRan, leaveRan⟩ : ∃ entered asked,
      (unitScope Database.control).enter ⟨⟨{ store }, []⟩, false⟩ = (.ok (), entered) ∧
      registrar.fetchAll (.ofTable personTable) entered =
        (.ok ((Select.ofTable personTable).evaluate store), asked) ∧
      ∀ failure, ∃ after, (unitScope Database.control).leave failure asked = (.ok (), after) ∧
        Workplace.sent after = [.select (.ofTable personTable)] := by
    refine ⟨_, _, rfl, rfl, fun failure => ?_⟩
    cases failure <;> exact ⟨_, rfl, rfl⟩
  have bodyRan : executeFetchPlan childrenPlan registrar entered = (result, asked) := by
    rw [found] at rootRan
    exact (bind_of_ok rootRan).trans (ran asked)
  have planned : (lift (FetchPlan.make registry {} "Person" none (.tree onlyChildren)
      (.expression .absent) [("children", some byNickname)]) : Action (Workplace Database) _)
        ⟨⟨{ store }, []⟩, false⟩ = (.ok childrenPlan, ⟨⟨{ store }, []⟩, false⟩) := rfl
  cases result with
  | ok rows =>
      obtain ⟨after, left, sent⟩ := leaveRan none
      exact ⟨after, (bind_of_ok planned).trans (Scope.within_of_ok enterRan bodyRan left), sent⟩
  | error failure =>
      obtain ⟨after, left, sent⟩ := leaveRan (some failure)
      exact ⟨after, (bind_of_ok planned).trans (Scope.within_of_error enterRan bodyRan left), sent⟩

/-- The filter of a level is only found not to fit once the root query was sent, and not at all if
there are no rows. -/
theorem misfit_found_late :
    registry.frozen = true ∧ ¬RefusesEarly childrenNicknamed ∧ ¬RefusesAlike childrenNicknamed := by
  have couple : (Select.ofTable personTable).evaluate worded.store = [
      [("id", .int 1), ("name", .text "Jo"), ("parentId", .null)],
      [("id", .int 2), ("name", .text "Cy"), ("parentId", .int 1)]] := by
    rw [Select.evaluate_of_unordered rfl]
    rfl
  have nobody : (Select.ofTable personTable).evaluate (Store.empty schema) = [] := by
    rw [Select.evaluate_of_unordered rfl]
    rfl
  obtain ⟨after, refused, sent⟩ := childrenNicknamed_apply couple fun _ => rfl
  obtain ⟨_, accepted, _⟩ := childrenNicknamed_apply nobody fun _ => rfl
  refine ⟨rfl, fun early => ?_, fun alike => ?_⟩
  · have none := early _ _ _ refused rfl
    rw [sent] at none
    cases none
  · have elsewhere := alike _ rfl _ ⟨⟨{ store := .empty schema }, []⟩, false⟩
      (congrArg Prod.fst refused)
    cases (congrArg Prod.fst accepted).symm.trans elsewhere

end Family

end RecordGraph
