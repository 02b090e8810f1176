import Mathlib.Data.List.Forall2
import Mathlib.Order.Lattice

/-!
Contract: lists of pairs, and lists that are related item by item.

Owns: lookup among distinct keys, lists without repetitions, and what related lists share.
Does not own: anything about plans.
-/

namespace RecordGraph

theorem lookup_of_mem {α β : Type} [BEq α] [LawfulBEq α] {entries : List (α × β)} {key : α}
    {value : β} (distinct : (entries.map Prod.fst).Nodup) (member : (key, value) ∈ entries) :
    entries.lookup key = some value := by
  induction entries with
  | nil => exact absurd member List.not_mem_nil
  | cons entry rest inductionHypothesis =>
      rcases entry with ⟨other, value'⟩
      rw [List.map_cons, List.nodup_cons] at distinct
      rcases List.mem_cons.1 member with same | inRest
      · cases same
        rw [List.lookup_cons_self]
      · have apart : key ≠ other := by
          rintro rfl
          exact distinct.1 (List.mem_map.2 ⟨_, inRest, rfl⟩)
        rw [List.lookup_cons, beq_false_of_ne apart]
        exact inductionHypothesis distinct.2 inRest

theorem nodup_eraseDups {α : Type} [BEq α] [LawfulBEq α] : ∀ items : List α, items.eraseDups.Nodup
  | [] => .nil
  | item :: rest => by
      rw [List.eraseDups_cons, List.nodup_cons]
      refine ⟨fun member => ?_, nodup_eraseDups _⟩
      have differs := (List.mem_filter.1 (List.mem_eraseDups.1 member)).2
      rw [beq_self_eq_true] at differs
      cases differs
termination_by items => items.length
decreasing_by
  exact Nat.lt_succ_of_le (List.length_filter_le ..)

theorem lookup_map_snd {α β γ : Type} [BEq α] [LawfulBEq α] (change : α → β → γ)
    (entries : List (α × β)) (key : α) :
    (entries.map fun entry => (entry.1, change entry.1 entry.2)).lookup key =
      (entries.lookup key).map (change key) := by
  induction entries with
  | nil => rfl
  | cons entry rest inductionHypothesis =>
      rw [List.map_cons, List.lookup_cons, List.lookup_cons]
      by_cases same : key = entry.1
      · rw [beq_iff_eq.2 same, same]
        rfl
      · rw [beq_false_of_ne same]
        exact inductionHypothesis

theorem lookup_filter_fst {α β : Type} [BEq α] [LawfulBEq α] (keep : α → Bool)
    (entries : List (α × β)) (key : α) :
    (entries.filter fun entry => keep entry.1).lookup key =
      if keep key then entries.lookup key else none := by
  induction entries with
  | nil => simp
  | cons entry rest inductionHypothesis =>
      rcases entry with ⟨other, value⟩
      by_cases same : key = other
      · subst same
        by_cases kept : keep key = true
        · simp [kept]
        · simpa [kept] using inductionHypothesis
      · have apart : (key == other) = false := beq_false_of_ne same
        by_cases kept : keep other = true
        · simpa [kept, List.lookup_cons, apart] using inductionHypothesis
        · simpa [kept, List.lookup_cons, apart] using inductionHypothesis

theorem exists_of_forall₂ {α β : Type} {relate : α → β → Prop} {lefts : List α}
    {rights : List β} (related : List.Forall₂ relate lefts rights) {right : β}
    (member : right ∈ rights) : ∃ left ∈ lefts, relate left right := by
  induction related with
  | nil => exact absurd member List.not_mem_nil
  | @cons left right' lefts rights atHead rest inductionHypothesis =>
      rcases List.mem_cons.1 member with rfl | inRest
      · exact ⟨left, List.mem_cons_self .., atHead⟩
      · rcases inductionHypothesis inRest with ⟨found, inLefts, relates⟩
        exact ⟨found, List.mem_cons_of_mem _ inLefts, relates⟩

theorem map_eq_of_forall₂ {α β γ : Type} {relate : α → β → Prop} {left : α → γ} {right : β → γ}
    {lefts : List α} {rights : List β} (related : List.Forall₂ relate lefts rights)
    (same : ∀ each each', relate each each' → left each = right each') :
    lefts.map left = rights.map right := by
  rw [← List.forall₂_eq_eq_eq, List.forall₂_map_left_iff, List.forall₂_map_right_iff]
  exact related.imp same

/-- A relation between any two items passes from one list to a related one. -/
theorem pairwise_of_forall₂ {α β : Type} {relate : α → β → Prop} {apart : α → α → Prop}
    {apart' : β → β → Prop} {lefts : List α} {rights : List β}
    (related : List.Forall₂ relate lefts rights) (distinct : lefts.Pairwise apart)
    (transfers : ∀ left left' right right', relate left right → relate left' right' →
      apart left left' → apart' right right') : rights.Pairwise apart' := by
  induction related with
  | nil => exact List.Pairwise.nil
  | @cons left right lefts rights atHead rest inductionHypothesis =>
      rcases List.pairwise_cons.1 distinct with ⟨headApart, tailApart⟩
      refine List.Pairwise.cons ?_ (inductionHypothesis tailApart)
      intro right' member
      rcases exists_of_forall₂ rest member with ⟨left', inLefts, relates⟩
      exact transfers left left' right right' atHead relates (headApart left' inLefts)

/-- Where no two items have a thing in common, items that have it in common are one. -/
theorem eq_of_pairwise_not {α : Type} {common : α → α → Prop} {items : List α}
    (apart : items.Pairwise fun left right => ¬common left right)
    (symmetric : ∀ {left right}, common left right → common right left) {left right : α}
    (isLeft : left ∈ items) (isRight : right ∈ items) (isCommon : common left right) :
    left = right := by
  induction items with
  | nil => exact absurd isLeft List.not_mem_nil
  | cons head tail inductionHypothesis =>
      rcases List.pairwise_cons.1 apart with ⟨headApart, tailApart⟩
      rcases List.mem_cons.1 isLeft with rfl | leftInTail
      · rcases List.mem_cons.1 isRight with rfl | rightInTail
        · rfl
        · exact absurd isCommon (headApart right rightInTail)
      · rcases List.mem_cons.1 isRight with rfl | rightInTail
        · exact absurd (symmetric isCommon) (headApart left leftInTail)
        · exact inductionHypothesis tailApart leftInTail rightInTail

/-- Of parts with different keys, a filter by one key leaves one part. -/
theorem filter_flatMap_of_distinct {α β γ : Type} [DecidableEq γ] {items : List α}
    {part : α → List β} {key : α → γ} {partKey : β → γ} (distinct : (items.map key).Nodup)
    (keyed : ∀ item ∈ items, ∀ each ∈ part item, partKey each = key item) {item : α}
    (member : item ∈ items) :
    (items.flatMap part).filter (fun each => partKey each = key item) = part item := by
  induction items with
  | nil => exact absurd member List.not_mem_nil
  | cons head tail inductionHypothesis =>
      rw [List.map_cons, List.nodup_cons] at distinct
      rw [List.forall_mem_cons] at keyed
      rw [List.flatMap_cons, List.filter_append]
      rcases List.mem_cons.1 member with rfl | inTail
      · have atHead : (part item).filter (fun each => partKey each = key item) = part item := by
          rw [List.filter_eq_self]
          intro each isPart
          exact decide_eq_true (keyed.1 each isPart)
        have atTail : (tail.flatMap part).filter (fun each => partKey each = key item) = [] := by
          rw [List.filter_eq_nil_iff]
          intro each isPart same
          obtain ⟨other, inTail, isPart⟩ := List.mem_flatMap.1 isPart
          apply distinct.1
          rw [← of_decide_eq_true same, keyed.2 other inTail each isPart]
          exact List.mem_map_of_mem inTail
        rw [atHead, atTail, List.append_nil]
      · have atHead : (part head).filter (fun each => partKey each = key item) = [] := by
          rw [List.filter_eq_nil_iff]
          intro each isPart same
          apply distinct.1
          rw [← keyed.1 each isPart, of_decide_eq_true same]
          exact List.mem_map_of_mem inTail
        rw [atHead, List.nil_append]
        exact inductionHypothesis distinct.2 keyed.2 inTail

/-! ## Greatest numbers -/

theorem le_foldl_max {α : Type} [LinearOrder α] {numbers : List α} : ∀ {first number : α},
    number = first ∨ number ∈ numbers → number ≤ numbers.foldl max first := by
  induction numbers with
  | nil =>
      rintro first number (rfl | member)
      · exact le_refl _
      · exact absurd member List.not_mem_nil
  | cons head tail inductionHypothesis =>
      intro first number among
      have atLeast : max first head ≤ tail.foldl max (max first head) :=
        inductionHypothesis (Or.inl rfl)
      rw [List.foldl_cons]
      rcases among with rfl | member
      · exact le_trans (le_max_left _ _) atLeast
      · rcases List.mem_cons.1 member with rfl | member
        · exact le_trans (le_max_right _ _) atLeast
        · exact inductionHypothesis (Or.inr member)

theorem foldl_max_eq_or_mem (numbers : List Nat) : ∀ first : Nat,
    numbers.foldl max first = first ∨ numbers.foldl max first ∈ numbers := by
  induction numbers with
  | nil => exact fun first => Or.inl rfl
  | cons head tail inductionHypothesis =>
      intro first
      rw [List.foldl_cons]
      rcases inductionHypothesis (max first head) with isFirst | inTail
      · rw [isFirst]
        rcases Nat.le_total first head with below | above
        · exact Or.inr (by rw [Nat.max_eq_right below]; exact List.mem_cons_self ..)
        · exact Or.inl (Nat.max_eq_left above)
      · exact Or.inr (List.mem_cons_of_mem _ inTail)

/-! ## Stable sorting -/

theorem takeWhile_split {α : Type} {holds : α → Bool} {left right : List α}
    (leftHolds : ∀ item ∈ left, holds item = true) (rightNot : ∀ item ∈ right, holds item = false) :
    (left ++ right).takeWhile holds = left := by
  rw [List.takeWhile_append_of_pos leftHolds]
  cases right with
  | nil => rw [List.takeWhile_nil, List.append_nil]
  | cons head tail =>
      have headNot := rightNot head (List.mem_cons_self ..)
      rw [List.takeWhile_cons, headNot, if_neg Bool.false_ne_true, List.append_nil]

theorem mergeSort_split {α : Type} {le : α → α → Bool}
    (trans : ∀ a b c, le a b = true → le b c = true → le a c = true)
    (total : ∀ a b, (le a b || le b a) = true) (head : α) (tail : List α) :
    ∃ before after, (head :: tail).mergeSort le = before ++ head :: after ∧
      tail.mergeSort le = before ++ after ∧ (∀ item ∈ before, le head item = false) ∧
        ∀ item ∈ after, le head item = true := by
  rcases List.mergeSort_cons trans total head tail with ⟨before, after, sorted, rest, strictly⟩
  have ordered := List.pairwise_mergeSort trans total (head :: tail)
  rw [sorted, List.pairwise_append, List.pairwise_cons] at ordered
  refine ⟨before, after, sorted, rest, fun item member => ?_, ordered.2.1.1⟩
  simpa using strictly item member

/-- A stable sort keeps the order of what a filter leaves. -/
theorem filter_mergeSort {α : Type} {le : α → α → Bool}
    (trans : ∀ a b c, le a b = true → le b c = true → le a c = true)
    (total : ∀ a b, (le a b || le b a) = true) (keep : α → Bool) (items : List α) :
    (items.mergeSort le).filter keep = (items.filter keep).mergeSort le := by
  induction items with
  | nil => rw [List.mergeSort_nil, List.filter_nil, List.mergeSort_nil]
  | cons head tail inductionHypothesis =>
      rcases mergeSort_split trans total head tail with
        ⟨before, after, sorted, rest, strictly, weakly⟩
      rw [rest, List.filter_append] at inductionHypothesis
      rw [sorted, List.filter_append, List.filter_cons, List.filter_cons]
      by_cases kept : keep head = true
      · rw [if_pos kept, if_pos kept]
        rcases mergeSort_split trans total head (tail.filter keep) with
          ⟨before', after', sorted', rest', strictly', weakly'⟩
        rw [rest'] at inductionHypothesis
        -- the head stands where the items begin that it does not come strictly after
        have first : before.filter keep = before' := by
          have atHead : ((before.filter keep ++ after.filter keep).takeWhile fun item =>
              !le head item) = before.filter keep := by
            apply takeWhile_split
            · intro item member
              rw [strictly item (List.mem_of_mem_filter member)]
              rfl
            · intro item member
              rw [weakly item (List.mem_of_mem_filter member)]
              rfl
          have atHead' : ((before' ++ after').takeWhile fun item => !le head item) = before' := by
            apply takeWhile_split
            · intro item member
              rw [strictly' item member]
              rfl
            · intro item member
              rw [weakly' item member]
              rfl
          rw [← atHead, inductionHypothesis, atHead']
        rw [first, List.append_cancel_left_eq] at inductionHypothesis
        rw [sorted', first, inductionHypothesis]
      · rw [if_neg kept, if_neg kept]
        exact inductionHypothesis

end RecordGraph
