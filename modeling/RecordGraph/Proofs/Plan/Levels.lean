import Mathlib.Data.List.GetD
import Mathlib.Data.List.Perm.Basic
import RecordGraph.Proofs.Plan.Backfill

/-!
Contract: the batches of an insert plan.

Owns: the operations that need another one, chains of backfills, the depths that one pass over a plan
gives to its operations, and the batches by depth.
Does not own: the execution of batches.

The pass looks at each operation once, so it depends on the planner's order: a row is planned after
all rows whose values it takes over. In that order the depth of an operation is the number of
backfills in the longest chain that leads to it.
-/

namespace RecordGraph

/-- Whether an operation takes over a value of the row of another one. -/
def Operation.Needs (later earlier : Operation) : Prop :=
  ∃ backfill ∈ later.backfills, backfill.source = earlier.index

theorem Operation.mem_insertNumber {number other : Nat} {numbers : List Nat} :
    other ∈ sources.insertNumber number numbers ↔ other = number ∨ other ∈ numbers := by
  induction numbers with
  | nil => rw [sources.insertNumber, List.mem_singleton, or_iff_left List.not_mem_nil]
  | cons head tail inductionHypothesis =>
      rw [sources.insertNumber]
      split
      · rw [List.mem_cons]
      · split
        case isTrue same =>
          rw [List.mem_cons, same]
          tauto
        case isFalse =>
          rw [List.mem_cons, inductionHypothesis, List.mem_cons]
          tauto

theorem Operation.mem_sources {operation : Operation} {number : Nat} :
    number ∈ operation.sources ↔ ∃ backfill ∈ operation.backfills, backfill.source = number := by
  rw [sources]
  induction operation.backfills with
  | nil => exact iff_of_false List.not_mem_nil (by rintro ⟨_, impossible, _⟩; cases impossible)
  | cons backfill rest inductionHypothesis =>
      rw [List.map_cons, List.foldr_cons, mem_insertNumber, inductionHypothesis,
        List.exists_mem_cons_iff, eq_comm]

namespace InsertPlan

/-- A chain of operations of a plan that ends with an operation, each of which takes over a value of
the row of the one before it, by the number of its links. -/
inductive Chain (plan : InsertPlan) : Operation → Nat → Prop where
  | single {operation : Operation} (member : operation ∈ plan.operations) :
      Chain plan operation 0
  | extend {earlier later : Operation} {count : Nat} (chain : Chain plan earlier count)
      (member : later ∈ plan.operations) (needs : later.Needs earlier) :
      Chain plan later (count + 1)

/-- Whether the longest chain that ends with an operation has a number of links. -/
structure HasDepth (plan : InsertPlan) (operation : Operation) (depth : Nat) : Prop where
  chain : plan.Chain operation depth
  longest : ∀ count, plan.Chain operation count → count ≤ depth

/-- Whether operations are numbered in order, and come after those whose rows they need. -/
structure Ordered (plan : InsertPlan) : Prop where
  numbers : plan.operations.map (·.index) = List.range plan.operations.length
  sources : ∀ operation ∈ plan.operations, ∀ backfill ∈ operation.backfills,
    ∃ source ∈ plan.operations, source.index = backfill.source ∧ source.index < operation.index

/-- Planned operations are in order. -/
theorem IsImage.ordered {registry : Registry} {conflict : Option ConflictPolicy} {root : Entity}
    {records : List Payload} {plan : InsertPlan} {parts : List RootPart}
    (image : plan.IsImage registry conflict root records parts) : plan.Ordered where
  numbers := image.numbers
  sources := by
    intro operation member backfill isBackfill
    obtain ⟨part, isPart, record, _, site, inListing, isImage⟩ := image.part_of_mem member
    obtain ⟨source, isSource, _, sameIndex, below⟩ :=
      isImage.sources _ inListing backfill isBackfill
    exact ⟨source.2, image.mem_operations isPart isSource, sameIndex, sameIndex ▸ below⟩

/-! ## Dependents -/

section Dependents

variable {plan : InsertPlan} {operation : Operation}

theorem mem_dependents {index : Nat} {later : Operation} :
    later ∈ plan.dependents index ↔
      later ∈ plan.operations ∧ ∃ backfill ∈ later.backfills, backfill.source = index := by
  simp [dependents, Operation.mem_sources]

/-- Operations that need another one come after it. -/
theorem Ordered.dependents_ne_nil_iff (ordered : plan.Ordered) :
    plan.dependents operation.index ≠ [] ↔
      ∃ later ∈ plan.operations, operation.index < later.index ∧ later.Needs operation := by
  constructor
  · intro nonempty
    obtain ⟨later, member⟩ := List.exists_mem_of_ne_nil _ nonempty
    obtain ⟨isLater, backfill, isBackfill, isSource⟩ := mem_dependents.1 member
    obtain ⟨source, _, same, below⟩ := ordered.sources later isLater backfill isBackfill
    refine ⟨later, isLater, ?_, backfill, isBackfill, isSource⟩
    omega
  · rintro ⟨later, isLater, _, needs⟩
    exact List.ne_nil_of_mem (mem_dependents.2 ⟨isLater, needs⟩)

end Dependents

/-! ## Depths -/

theorem depthsFrom_eq_append (operations : List Operation) : ∀ depths : List Nat,
    ∃ added, depthsFrom depths operations = depths ++ added ∧
      added.length = operations.length := by
  induction operations with
  | nil => exact fun depths => ⟨[], (List.append_nil _).symm, rfl⟩
  | cons operation rest inductionHypothesis =>
      intro depths
      obtain ⟨added, isAppend, sameLength⟩ :=
        inductionHypothesis (depths ++ [depthAfter depths operation])
      refine ⟨depthAfter depths operation :: added, ?_, by rw [List.length_cons, sameLength]; rfl⟩
      rw [depthsFrom, isAppend, List.append_assoc, List.singleton_append]

/-- The depths that are given stay. -/
theorem getD_depthsFrom {depths : List Nat} (operations : List Operation) {index : Nat}
    (given : index < depths.length) :
    (depthsFrom depths operations).getD index 0 = depths.getD index 0 := by
  obtain ⟨added, isAppend, _⟩ := depthsFrom_eq_append operations depths
  rw [isAppend, List.getD_append _ _ _ _ given]

/-- The depth of an operation is one more than that of any operation that it needs. -/
theorem lt_depthAfter {depths : List Nat} {operation : Operation} {source : Nat}
    (isSource : source ∈ operation.sources) :
    depths.getD source 0 < depthAfter depths operation := by
  have isTaken : depths.getD source 0 + 1 ∈
      operation.sources.map fun source => depths.getD source 0 + 1 :=
    List.mem_map_of_mem isSource
  exact Nat.lt_of_succ_le (le_foldl_max (.inr isTaken))

/-- An operation that has a depth has it from one that it needs. -/
theorem depthAfter_eq (depths : List Nat) (operation : Operation) :
    depthAfter depths operation = 0 ∨
      ∃ source ∈ operation.sources, depthAfter depths operation = depths.getD source 0 + 1 := by
  rcases foldl_max_eq_or_mem (operation.sources.map fun source => depths.getD source 0 + 1) 0 with
    isZero | isMember
  · exact Or.inl isZero
  · obtain ⟨source, isSource, same⟩ := List.mem_map.1 isMember
    exact Or.inr ⟨source, isSource, same.symm⟩

theorem depthAfter_congr {depths depths' : List Nat} {operation : Operation}
    (same : ∀ source ∈ operation.sources, depths.getD source 0 = depths'.getD source 0) :
    depthAfter depths operation = depthAfter depths' operation := by
  unfold depthAfter
  rw [List.map_congr_left fun source isSource => by rw [same source isSource]]

/-- In operations that come after those that they need, each is one deeper than those. -/
theorem getD_depthsFrom_index {operations : List Operation} : ∀ {depths : List Nat},
    operations.map (·.index) = List.range' depths.length operations.length →
      (∀ operation ∈ operations, ∀ source ∈ operation.sources, source < operation.index) →
        ∀ operation ∈ operations, (depthsFrom depths operations).getD operation.index 0 =
          depthAfter (depthsFrom depths operations) operation := by
  induction operations with
  | nil => exact fun _ _ _ member => absurd member List.not_mem_nil
  | cons first rest inductionHypothesis =>
      intro depths numbered earlier
      rw [List.map_cons, List.length_cons, List.range'_succ, List.cons.injEq] at numbered
      rw [List.forall_mem_cons] at earlier ⊢
      have sameLength : (depths ++ [depthAfter depths first]).length = depths.length + 1 := by simp
      rw [depthsFrom]
      refine ⟨?_, inductionHypothesis (by rw [sameLength]; exact numbered.2) earlier.2⟩
      rw [getD_depthsFrom rest (by omega), numbered.1,
        List.getD_append_right _ _ _ _ (Nat.le_refl _), Nat.sub_self, List.getD_cons_zero]
      refine depthAfter_congr fun source isSource => ?_
      have below := earlier.1 source isSource
      rw [getD_depthsFrom rest (by omega), List.getD_append _ _ _ _ (by omega)]

/-- The depth that the pass gives to an operation. -/
def depthOf (plan : InsertPlan) (operation : Operation) : Nat :=
  plan.depths.getD operation.index 0

namespace Ordered

variable {plan : InsertPlan} (ordered : plan.Ordered) {operation earlier : Operation}

include ordered

theorem numbers_distinct : (plan.operations.map (·.index)).Nodup := by
  rw [ordered.numbers]
  exact List.nodup_range

theorem eq_of_index {left right : Operation} (isLeft : left ∈ plan.operations)
    (isRight : right ∈ plan.operations) (same : left.index = right.index) : left = right :=
  List.inj_on_of_nodup_map ordered.numbers_distinct isLeft isRight same

/-- What an operation needs is planned before it. -/
theorem source_of_mem (member : operation ∈ plan.operations) {source : Nat}
    (isSource : source ∈ operation.sources) :
    ∃ earlier ∈ plan.operations, earlier.index = source ∧ operation.Needs earlier ∧
      earlier.index < operation.index := by
  obtain ⟨backfill, isBackfill, rfl⟩ := Operation.mem_sources.1 isSource
  obtain ⟨earlier, isEarlier, same, below⟩ := ordered.sources operation member backfill isBackfill
  exact ⟨earlier, isEarlier, same, ⟨backfill, isBackfill, same.symm⟩, below⟩

theorem depthOf_eq (member : operation ∈ plan.operations) :
    plan.depthOf operation = depthAfter plan.depths operation := by
  refine getD_depthsFrom_index ?_ (fun later isLater source isSource => ?_) operation member
  · rw [ordered.numbers, List.range_eq_range']
    rfl
  · obtain ⟨earlier, _, rfl, _, below⟩ := ordered.source_of_mem isLater isSource
    exact below

theorem depthOf_lt (member : operation ∈ plan.operations) (needs : operation.Needs earlier) :
    plan.depthOf earlier < plan.depthOf operation := by
  rw [ordered.depthOf_eq member]
  exact lt_depthAfter (Operation.mem_sources.2 needs)

/-- An operation that is not at the top needs one that is one less deep. -/
theorem exists_needed {depth : Nat} (member : operation ∈ plan.operations)
    (isDepth : plan.depthOf operation = depth + 1) :
    ∃ earlier ∈ plan.operations, operation.Needs earlier ∧ earlier.index < operation.index ∧
      plan.depthOf earlier = depth := by
  rw [ordered.depthOf_eq member] at isDepth
  rcases depthAfter_eq plan.depths operation with isZero | ⟨source, isSource, same⟩
  · omega
  · obtain ⟨earlier, isEarlier, rfl, needs, below⟩ := ordered.source_of_mem member isSource
    exact ⟨earlier, isEarlier, needs, below, Nat.succ_inj.1 (same.symm.trans isDepth)⟩

/-- A chain is no longer than its last operation is deep. -/
theorem le_depthOf {count : Nat} (chain : plan.Chain operation count) :
    count ≤ plan.depthOf operation := by
  induction chain with
  | single member => exact Nat.zero_le _
  | extend chain member needs inductionHypothesis =>
      exact Nat.lt_of_le_of_lt inductionHypothesis (ordered.depthOf_lt member needs)

/-- A chain leads to every operation from the top. -/
theorem chain_depthOf {depth : Nat} (member : operation ∈ plan.operations)
    (isDepth : plan.depthOf operation = depth) : plan.Chain operation depth := by
  induction depth generalizing operation with
  | zero => exact .single member
  | succ depth inductionHypothesis =>
      obtain ⟨earlier, isEarlier, needs, _, isAbove⟩ := ordered.exists_needed member isDepth
      exact .extend (inductionHypothesis isEarlier isAbove) member needs

/-- The pass gives to an operation the number of links of the longest chain that leads to it. -/
theorem hasDepth_iff {depth : Nat} :
    plan.HasDepth operation depth ↔
      operation ∈ plan.operations ∧ plan.depthOf operation = depth := by
  constructor
  · rintro ⟨chain, longest⟩
    have member : operation ∈ plan.operations := by cases chain <;> assumption
    refine ⟨member, Nat.le_antisymm ?_ (ordered.le_depthOf chain)⟩
    exact longest _ (ordered.chain_depthOf member rfl)
  · rintro ⟨member, isDepth⟩
    refine ⟨ordered.chain_depthOf member isDepth, fun count chain => ?_⟩
    rw [← isDepth]
    exact ordered.le_depthOf chain

/-- Above every operation, every depth is taken. -/
theorem exists_of_depth {depth : Nat} (member : operation ∈ plan.operations)
    (atMost : depth ≤ plan.depthOf operation) :
    ∃ above ∈ plan.operations, plan.depthOf above = depth := by
  induction isDepth : plan.depthOf operation generalizing operation with
  | zero => exact ⟨operation, member, by omega⟩
  | succ count inductionHypothesis =>
      by_cases isOwn : depth = count + 1
      · exact ⟨operation, member, isDepth.trans isOwn.symm⟩
      · obtain ⟨earlier, isEarlier, _, _, isAbove⟩ := ordered.exists_needed member isDepth
        exact inductionHypothesis isEarlier (by omega) isAbove

end Ordered

/-! ## Batches -/

/-- Items in batches by a key below a bound are those items whose keys are below the bound. -/
theorem flatten_range_perm {α : Type} (key : α → Nat) (items : List α) (count : Nat) :
    ((List.range count).map fun place => items.filter fun item => key item = place).flatten.Perm
      (items.filter fun item => key item < count) := by
  induction count with
  | zero =>
      rw [List.filter_eq_nil_iff.2 (by simp)]
      exact List.Perm.refl []
  | succ count inductionHypothesis =>
      rw [List.range_succ, List.map_append, List.flatten_append, List.map_singleton,
        List.flatten_singleton]
      have below : (items.filter fun item => key item < count + 1).filter
          (fun item => key item < count) = items.filter fun item => key item < count := by
        rw [List.filter_filter]
        refine List.filter_congr fun item _ => ?_
        rw [← Bool.decide_and, decide_eq_decide]
        omega
      have atCount : (items.filter fun item => key item < count + 1).filter
          (fun item => !decide (key item < count)) = items.filter fun item => key item = count := by
        rw [List.filter_filter]
        refine List.filter_congr fun item _ => ?_
        rw [← decide_not, ← Bool.decide_and, decide_eq_decide]
        omega
      have split := List.filter_append_perm (fun item => decide (key item < count))
        (items.filter fun item => key item < count + 1)
      rw [below, atCount] at split
      exact (inductionHypothesis.append_right _).trans split

theorem length_depths (plan : InsertPlan) : plan.depths.length = plan.operations.length := by
  obtain ⟨added, isAppend, sameLength⟩ := depthsFrom_eq_append plan.operations []
  rw [depths, isAppend, List.nil_append, sameLength]

/-- The number of batches. -/
def height (plan : InsertPlan) : Nat :=
  (plan.depths.map (· + 1)).foldl max 0

theorem levels_eq (plan : InsertPlan) :
    plan.levels = (List.range plan.height).map fun depth =>
      plan.operations.filter fun operation => plan.depthOf operation = depth :=
  rfl

theorem getElem?_levels {plan : InsertPlan} {depth : Nat} {batch : List Operation}
    (isBatch : plan.levels[depth]? = some batch) :
    depth < plan.height ∧
      batch = plan.operations.filter fun operation => plan.depthOf operation = depth := by
  rw [levels_eq, List.getElem?_map, Option.map_eq_some_iff] at isBatch
  obtain ⟨place, isPlace, rfl⟩ := isBatch
  obtain ⟨below, rfl⟩ := List.getElem?_eq_some_iff.1 isPlace
  rw [List.getElem_range] at *
  exact ⟨by simpa using below, rfl⟩

namespace Ordered

variable {plan : InsertPlan} (ordered : plan.Ordered)

include ordered

theorem depthOf_lt_height {operation : Operation} (member : operation ∈ plan.operations) :
    plan.depthOf operation < plan.height := by
  have inRange : operation.index < plan.operations.length := by
    have isIndex : operation.index ∈ plan.operations.map (·.index) := List.mem_map_of_mem member
    rw [ordered.numbers] at isIndex
    exact List.mem_range.1 isIndex
  rw [← length_depths] at inRange
  have isTaken : plan.depthOf operation + 1 ∈ plan.depths.map (· + 1) := by
    rw [depthOf, List.getD_eq_getElem _ _ inRange]
    exact List.mem_map_of_mem (List.getElem_mem inRange)
  exact Nat.lt_of_succ_le (le_foldl_max (.inr isTaken))

/-- Every batch before the last one is taken. -/
theorem exists_of_lt_height {depth : Nat} (below : depth < plan.height) :
    ∃ operation ∈ plan.operations, plan.depthOf operation = depth := by
  rcases foldl_max_eq_or_mem (plan.depths.map (· + 1)) 0 with isZero | isMember
  · unfold height at below
    omega
  · obtain ⟨deepest, isDepth, same⟩ := List.mem_map.1 isMember
    obtain ⟨place, inRange, rfl⟩ := List.getElem_of_mem isDepth
    have inOperations : place < plan.operations.length := length_depths plan ▸ inRange
    have isIndex : place ∈ plan.operations.map (·.index) := by
      rw [ordered.numbers]
      exact List.mem_range.2 inOperations
    obtain ⟨operation, member, rfl⟩ := List.mem_map.1 isIndex
    refine ordered.exists_of_depth member ?_
    rw [depthOf, List.getD_eq_getElem _ _ inRange]
    unfold height at below
    omega

/-- The batches hold every operation once. -/
theorem levels_perm : plan.levels.flatten.Perm plan.operations := by
  have all : (plan.operations.filter fun operation => plan.depthOf operation < plan.height) =
      plan.operations :=
    List.filter_eq_self.2 fun operation member => decide_eq_true (ordered.depthOf_lt_height member)
  have perm := flatten_range_perm plan.depthOf plan.operations plan.height
  rw [all, ← levels_eq] at perm
  exact perm

theorem levels_nonempty : ∀ batch ∈ plan.levels, batch ≠ [] := by
  intro batch isBatch
  obtain ⟨depth, inRange, rfl⟩ := List.getElem_of_mem isBatch
  obtain ⟨below, isFilter⟩ := getElem?_levels (List.getElem?_eq_getElem inRange)
  obtain ⟨operation, member, isDepth⟩ := ordered.exists_of_lt_height below
  refine List.ne_nil_of_mem (a := operation) ?_
  rw [isFilter, List.mem_filter]
  exact ⟨member, decide_eq_true isDepth⟩

/-- A batch holds the operations of its depth. -/
theorem mem_batch_iff {depth : Nat} {batch : List Operation}
    (isBatch : plan.levels[depth]? = some batch) {operation : Operation} :
    operation ∈ batch ↔ plan.HasDepth operation depth := by
  rw [(getElem?_levels isBatch).2, List.mem_filter, ordered.hasDepth_iff, decide_eq_true_iff]

end Ordered

end InsertPlan

end RecordGraph
