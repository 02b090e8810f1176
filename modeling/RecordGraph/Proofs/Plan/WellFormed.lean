import RecordGraph.Proofs.Plan.Acceptance
import RecordGraph.Proofs.Plan.Roots
import RecordGraph.Proofs.Value.Same

/-!
Contract: the payloads that the insert planner accepts.

Owns: `Spot.WellFormed`, a condition on every place of a record's payload, and its agreement with
the success of planning.
Does not own: why a payload is refused.

A record may repeat the identity of a sibling or a cousin, but not of a record that it is nested in.
Identities are compared as members of one document, where what is not a number equals itself.
The planner compares a record with its ancestors on the way down; here any two places of which one
lies below the other are compared.
-/

namespace RecordGraph

namespace Spot

/-- Whether a record has the entity and the primary key, not null, of a record around it. -/
def Repeats (spot above : Spot) : Prop :=
  spot.entity.name = above.entity.name ∧ spot.keyValue.isNull = false ∧
    spot.keyValue.alike above.keyValue = true

/-- Whether a record that is nested at most `depth` deep is fit for planning, with everything below
it. -/
structure WellFormed (registry : Registry) (allow : AllowList Filter) (depth : Nat)
    (spot : Spot) : Prop where
  objects : ∀ place below, spot.at? registry place = some below →
    ∃ fields, below.payload = .object fields
  shallow : ∀ place below, spot.at? registry place = some below → place.length < depth
  /-- No record repeats one that it is nested in. -/
  acyclic : ∀ holder step rest above below, spot.at? registry holder = some above →
    spot.at? registry (holder ++ step :: rest) = some below → ¬ below.Repeats above
  admitted : ∀ place below, spot.at? registry place = some below →
    ∀ field ∈ below.fields, below.Admits registry allow field

/-- Whether a record repeats none of its ancestors. -/
def Fresh (ancestors : List RecordKey) (spot : Spot) : Prop :=
  ∀ key ∈ spot.identity?, ancestors.any key.same = false

theorem fresh_nil (spot : Spot) : spot.Fresh [] :=
  fun _ _ => rfl

/-- Records are compared by their identities. -/
theorem fresh_identity_iff {spot above : Spot} :
    spot.Fresh above.identity?.toList ↔ ¬ spot.Repeats above := by
  unfold Fresh Repeats identity?
  cases isNull : spot.keyValue.isNull with
  | true => simp
  | false =>
      cases aboveNull : above.keyValue.isNull with
      | true =>
          have differs : spot.keyValue.alike above.keyValue = false := by
            rw [Value.isNull_iff.1 aboveNull, Value.alike_null, isNull]
          simp [differs]
      | false => simp [RecordKey.same]

theorem fresh_append_iff {spot : Spot} {nearer farther : List RecordKey} :
    spot.Fresh (nearer ++ farther) ↔ spot.Fresh nearer ∧ spot.Fresh farther := by
  simp only [Fresh, List.any_append, Bool.or_eq_false_iff]
  exact forall₂_and

variable {registry : Registry} {allow : AllowList Filter}

/-- A record is well formed if it is, by itself, and all records next below it are. -/
theorem wellFormed_succ_iff {remaining : Nat} {spot : Spot} :
    spot.WellFormed registry allow (remaining + 1) ↔
      (∃ fields, spot.payload = .object fields) ∧
        (∀ field ∈ spot.fields, spot.Admits registry allow field) ∧
          ∀ step edge, spot.edge? registry step = some edge →
            edge.spot.WellFormed registry allow remaining ∧
              ∀ place below, edge.spot.at? registry place = some below → ¬ below.Repeats spot := by
  constructor
  · intro isFormed
    refine ⟨isFormed.objects [] spot rfl, isFormed.admitted [] spot rfl, ?_⟩
    intro step edge followed
    have under : ∀ {place below}, edge.spot.at? registry place = some below →
        spot.at? registry (step :: place) = some below := fun found => by rwa [at?_cons followed]
    refine ⟨⟨?_, ?_, ?_, ?_⟩, ?_⟩
    · exact fun place below found => isFormed.objects _ below (under found)
    · exact fun place below found => Nat.lt_of_succ_lt_succ (isFormed.shallow _ below (under found))
    · exact fun holder next rest above below foundAbove foundBelow =>
        isFormed.acyclic (step :: holder) next rest above below (under foundAbove)
          (under foundBelow)
    · exact fun place below found => isFormed.admitted _ below (under found)
    · exact fun place below found => isFormed.acyclic [] step place spot below rfl (under found)
  · rintro ⟨isObject, admits, edges⟩
    have cases_at : ∀ {place below}, spot.at? registry place = some below →
        (place = [] ∧ below = spot) ∨ ∃ step rest edge, place = step :: rest ∧
          spot.edge? registry step = some edge ∧ edge.spot.at? registry rest = some below := by
      intro place below found
      cases place with
      | nil => exact Or.inl ⟨rfl, (Option.some.inj found).symm⟩
      | cons step rest =>
          rcases Option.bind_eq_some_iff.1 found with ⟨edge, followed, atRest⟩
          exact Or.inr ⟨step, rest, edge, rfl, followed, atRest⟩
    refine ⟨?_, ?_, ?_, ?_⟩
    · intro place below found
      rcases cases_at found with ⟨_, rfl⟩ | ⟨step, rest, edge, _, followed, atRest⟩
      · exact isObject
      · exact (edges step edge followed).1.objects rest below atRest
    · intro place below found
      rcases cases_at found with ⟨rfl, _⟩ | ⟨step, rest, edge, rfl, followed, atRest⟩
      · exact Nat.succ_pos _
      · exact Nat.succ_lt_succ ((edges step edge followed).1.shallow rest below atRest)
    · intro holder next rest above below foundAbove foundBelow
      rcases cases_at foundAbove with ⟨rfl, rfl⟩ | ⟨step, holder', edge, rfl, followed, atHolder⟩
      · rcases Option.bind_eq_some_iff.1 foundBelow with ⟨edge, followed, atRest⟩
        exact (edges next edge followed).2 rest below atRest
      · rw [List.cons_append, at?_cons followed] at foundBelow
        exact (edges step edge followed).1.acyclic holder' next rest above below atHolder foundBelow
    · intro place below found
      rcases cases_at found with ⟨_, rfl⟩ | ⟨step, rest, edge, _, followed, atRest⟩
      · exact admits
      · exact (edges step edge followed).1.admitted rest below atRest

/-- A record is accepted if it is well formed and nothing in it repeats an ancestor. -/
theorem accepted_iff_wellFormed (remaining : Nat) : ∀ (ancestors : List RecordKey) (spot : Spot),
    spot.Accepted registry allow remaining ancestors ↔
      spot.WellFormed registry allow remaining ∧
        ∀ place below, spot.at? registry place = some below → below.Fresh ancestors := by
  induction remaining with
  | zero =>
      intro ancestors spot
      refine iff_of_false id ?_
      rintro ⟨isFormed, _⟩
      exact Nat.not_lt_zero _ (isFormed.shallow [] spot rfl)
  | succ remaining inductionHypothesis =>
      intro ancestors spot
      simp only [Accepted, inductionHypothesis, wellFormed_succ_iff, fresh_append_iff,
        fresh_identity_iff]
      constructor
      · rintro ⟨isObject, isFresh, admits, edges⟩
        refine ⟨⟨isObject, admits, fun step edge followed => ?_⟩, ?_⟩
        · rcases edges step edge followed with ⟨isFormed, apart⟩
          exact ⟨isFormed, fun place below found => (apart place below found).1⟩
        · intro place below found
          cases place with
          | nil =>
              cases found
              exact isFresh
          | cons step rest =>
              rcases Option.bind_eq_some_iff.1 found with ⟨edge, followed, atRest⟩
              exact ((edges step edge followed).2 rest below atRest).2
      · rintro ⟨⟨isObject, admits, edges⟩, fresh⟩
        refine ⟨isObject, fresh [] spot rfl, admits, fun step edge followed => ?_⟩
        refine ⟨(edges step edge followed).1, fun place below found => ?_⟩
        refine ⟨(edges step edge followed).2 place below found, fresh (step :: place) below ?_⟩
        rw [at?_cons followed, found]

end Spot

/-! ## Payloads -/

theorem InsertContext.planRoots_succeeds_iff {context : InsertContext}
    (closed : context.registry.Closed) (entity : Entity) (conflict : Option ConflictPolicy)
    (records : List Payload) :
    ∀ next, (∃ outcome, context.planRoots entity conflict next records = .ok outcome) ↔
      ∀ record ∈ records,
        Spot.WellFormed context.registry context.allow context.maxDepth ⟨entity, "", record⟩ := by
  induction records with
  | nil => exact fun _ => iff_of_true ⟨([], [], []), rfl⟩ fun _ member => absurd member List.not_mem_nil
  | cons record rest inductionHypothesis =>
      intro next
      have headIff := planRecord_succeeds_iff closed context.maxDepth conflict []
        ⟨entity, "", record⟩ [] next
      rw [Spot.accepted_iff_wellFormed] at headIff
      rw [List.forall_mem_cons, planRoots, Result.exists_bind_eq_ok]
      constructor
      · rintro ⟨fragment, planned, others⟩
        rcases Result.exists_bind_eq_ok.1 others with ⟨outcome, tailOk, _⟩
        exact ⟨(headIff.1 ⟨fragment, planned⟩).1, (inductionHypothesis _).1 ⟨outcome, tailOk⟩⟩
      · rintro ⟨headFormed, tailFormed⟩
        obtain ⟨fragment, planned⟩ := headIff.2 ⟨headFormed, fun _ below _ => below.fresh_nil⟩
        obtain ⟨outcome, tailOk⟩ :=
          (inductionHypothesis (next + fragment.operations.length)).2 tailFormed
        refine ⟨fragment, planned, ?_⟩
        exact Result.exists_bind_eq_ok.2 ⟨outcome, tailOk, Result.exists_pure_eq_ok _⟩

namespace InsertPlan

theorem rootRecords_of_not_scalar {payload : Payload}
    (notScalar : ∀ value, payload ≠ .scalar value) :
    ∃ many, rootRecords payload = .ok (many, payload.members) := by
  cases payload with
  | scalar value => exact absurd rfl (notScalar value)
  | list items => exact ⟨true, rfl⟩
  | object fields => exact ⟨false, rfl⟩
  | again => exact ⟨false, rfl⟩

/-- A payload is planned exactly if its root records are well formed. -/
theorem make_succeeds_iff {registry : Registry} {config : Config} {entity : String}
    {payload : Payload} {source : AllowSource Filter} {conflict : Option ConflictPolicy}
    {allow : AllowList Filter} {root : Entity} (reachable : registry.Reachable)
    (frozen : registry.frozen = true) (read : source.read = .ok allow)
    (found : registry.entity entity = .ok root) (notScalar : ∀ value, payload ≠ .scalar value) :
    (∃ plan, InsertPlan.make registry config entity payload source conflict = .ok plan) ↔
      ∀ record ∈ payload.members,
        Spot.WellFormed registry allow config.maxPayloadDepth ⟨root, "", record⟩ := by
  obtain ⟨many, listed⟩ := rootRecords_of_not_scalar notScalar
  have planned := @InsertContext.planRoots_succeeds_iff ⟨registry, allow, config.maxPayloadDepth⟩
    (reachable.closed frozen) root conflict payload.members 0
  rw [← planned]
  simp only [InsertPlan.make, Result.exists_bind_eq_ok]
  constructor
  · rintro ⟨_, sameAllow, _, sameRoot, _, sameRecords, outcome, rootsOk, _⟩
    cases read.symm.trans sameAllow
    cases found.symm.trans sameRoot
    cases listed.symm.trans sameRecords
    exact ⟨outcome, rootsOk⟩
  · rintro ⟨outcome, rootsOk⟩
    exact ⟨allow, read, root, found, (many, payload.members), listed, outcome, rootsOk,
      Result.exists_pure_eq_ok _⟩

end InsertPlan

namespace Family

/-- A person, number 1, whose child's parent is number 1 again. -/
def loop : Payload :=
  .object [
    ("id", .scalar (.int 1)),
    ("children", .object [
      ("id", .scalar (.int 2)),
      ("parent", .object [("id", .scalar (.int 1))])])]

/-- A person whose number is none, with a child whose number is none either. -/
def unnumbered : Payload :=
  .object [
    ("id", .scalar (.float .nan)),
    ("children", .object [("id", .scalar (.float .nan))])]

theorem household_wellFormed_loops_not :
    (∀ record ∈ household.members,
        Spot.WellFormed registry .unrestricted 32 ⟨person, "", record⟩) ∧
      (¬ ∀ record ∈ loop.members,
        Spot.WellFormed registry .unrestricted 32 ⟨person, "", record⟩) ∧
      ¬ ∀ record ∈ unnumbered.members,
        Spot.WellFormed registry .unrestricted 32 ⟨person, "", record⟩ := by
  have planned : ∀ payload, (∀ value, payload ≠ .scalar value) →
      ((∃ plan, InsertPlan.make registry {} "Person" payload (.expression .absent) none =
          .ok plan) ↔
        ∀ record ∈ payload.members,
          Spot.WellFormed registry .unrestricted 32 ⟨person, "", record⟩) :=
    fun payload notScalar => InsertPlan.make_succeeds_iff registry_reachable rfl rfl rfl notScalar
  refine ⟨(planned household nofun).1 ⟨_, rfl⟩, fun isFormed => ?_, fun isFormed => ?_⟩
  · obtain ⟨plan, made⟩ := (planned loop nofun).2 isFormed
    have failed : InsertPlan.make registry {} "Person" loop (.expression .absent) none =
        .error (.reappears "children.parent") := rfl
    cases failed.symm.trans made
  · obtain ⟨plan, made⟩ := (planned unnumbered nofun).2 isFormed
    have failed : InsertPlan.make registry {} "Person" unnumbered (.expression .absent) none =
        .error (.reappears "children") := rfl
    cases failed.symm.trans made

end Family

end RecordGraph
