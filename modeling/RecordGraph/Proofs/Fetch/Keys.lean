import RecordGraph.Plan.Fetch
import RecordGraph.Proofs.Result
import RecordGraph.Proofs.Value.Same

/-!
Contract: the keys that a level is built for.

Owns: that the keys of parent rows are found, that each comes from a parent row, and that each
parent row has a key that stands for its own.
Does not own: the rows that are selected by keys.
-/

namespace RecordGraph.FetchLevel

/-- Whether a key is among keys, or equals one of them. What is not a number equals nothing, and is
there only itself. -/
def StandsIn (key : Value) (keys : List Value) : Prop :=
  key ∈ keys ∨ ∃ other ∈ keys, key.same other = true

theorem StandsIn.mono {key : Value} {keys keys' : List Value} (stands : StandsIn key keys)
    (included : keys ⊆ keys') : StandsIn key keys' := by
  rcases stands with member | ⟨other, member, same⟩
  · exact .inl (included member)
  · exact .inr ⟨other, included member, same⟩

/-- What equals a key equals one that stands for it. -/
theorem StandsIn.any_same {key value : Value} {keys : List Value} (stands : StandsIn key keys)
    (isKey : key.isKey = true) (areKeys : ∀ other ∈ keys, other.isKey = true)
    (same : key.same value = true) : (keys.any fun other => other.same value) = true := by
  rw [List.any_eq_true]
  rcases stands with member | ⟨other, member, sameOther⟩
  · exact ⟨key, member, same⟩
  · refine ⟨other, member, ?_⟩
    exact Value.same_of_same_same isKey (areKeys other member) sameOther same

theorem subset_addKey (keys : List Value) (key : Value) : keys ⊆ addKey keys key := by
  unfold addKey
  by_cases present : keys.any key.same = true
  · rw [if_pos present]
    exact List.Subset.refl keys
  · rw [if_neg present]
    exact List.subset_append_left keys [key]

theorem standsIn_addKey (keys : List Value) (key : Value) : StandsIn key (addKey keys key) := by
  unfold addKey
  by_cases present : keys.any key.same = true
  · rw [if_pos present]
    exact .inr (List.any_eq_true.1 present)
  · rw [if_neg present]
    exact .inl (List.mem_append_right keys (List.mem_singleton_self key))

theorem mem_addKey {keys : List Value} {key other : Value} (member : other ∈ addKey keys key) :
    other ∈ keys ∨ other = key := by
  unfold addKey at member
  by_cases present : keys.any key.same = true
  · rw [if_pos present] at member
    exact .inl member
  · rw [if_neg present] at member
    rcases List.mem_append.1 member with member | member
    · exact .inl member
    · exact .inr (List.mem_singleton.1 member)

/-- What the keys of parent rows are. -/
structure KeysOf (level : FetchLevel) (parents : List Record) (keys : List Value) : Prop where
  found : ∀ key ∈ keys, key.isNull = false ∧ key.isKey = true ∧
    ∃ parent ∈ parents, parent.getD level.ownerColumn = key
  stand : ∀ parent ∈ parents, (parent.getD level.ownerColumn).isNull = false →
    StandsIn (parent.getD level.ownerColumn) keys

theorem keysFrom_eq_ok (level : FetchLevel) {parents : List Record}
    (scalar : ∀ parent ∈ parents, (parent.getD level.ownerColumn).isKey = true)
    (seen : List Value) : ∃ keys, level.keysFrom seen parents = .ok keys ∧ seen ⊆ keys ∧
      (∀ key ∈ keys, key ∈ seen ∨ key.isNull = false ∧ key.isKey = true ∧
        ∃ parent ∈ parents, parent.getD level.ownerColumn = key) ∧
      ∀ parent ∈ parents, (parent.getD level.ownerColumn).isNull = false →
        StandsIn (parent.getD level.ownerColumn) keys := by
  induction parents generalizing seen with
  | nil =>
      refine ⟨seen, rfl, List.Subset.refl seen, fun key member => .inl member, ?_⟩
      intro parent member
      exact absurd member List.not_mem_nil
  | cons parent rest inductionHypothesis =>
      rw [List.forall_mem_cons] at scalar
      by_cases isNull : (parent.getD level.ownerColumn).isNull = true
      · rcases inductionHypothesis scalar.2 seen with ⟨keys, isOk, included, found, stand⟩
        refine ⟨keys, ?_, included, fun key member => ?_, ?_⟩
        · rw [keysFrom, if_pos isNull, isOk]
        · rcases found key member with wasSeen | ⟨notNull, isKey, owner, isParent, same⟩
          · exact .inl wasSeen
          · exact .inr ⟨notNull, isKey, owner, List.mem_cons_of_mem _ isParent, same⟩
        · rw [List.forall_mem_cons]
          refine ⟨fun notNull => ?_, stand⟩
          rw [isNull] at notNull
          cases notNull
      · rcases inductionHypothesis scalar.2 (addKey seen (parent.getD level.ownerColumn)) with
          ⟨keys, isOk, included, found, stand⟩
        refine ⟨keys, ?_, List.Subset.trans (subset_addKey seen _) included, fun key member => ?_, ?_⟩
        · rw [keysFrom, if_neg isNull, if_pos scalar.1, isOk]
        · rcases found key member with wasSeen | ⟨notNull, isKey, owner, isParent, same⟩
          · rcases mem_addKey wasSeen with wasSeen | isOwn
            · exact .inl wasSeen
            · rw [isOwn]
              exact .inr ⟨by simpa using isNull, scalar.1, parent, List.mem_cons_self .., rfl⟩
          · exact .inr ⟨notNull, isKey, owner, List.mem_cons_of_mem _ isParent, same⟩
        · rw [List.forall_mem_cons]
          exact ⟨fun _ => (standsIn_addKey seen _).mono included, stand⟩

theorem keys_eq_ok (level : FetchLevel) {parents : List Record}
    (scalar : ∀ parent ∈ parents, (parent.getD level.ownerColumn).isKey = true) :
    ∃ keys, level.keys parents = .ok keys ∧ level.KeysOf parents keys := by
  rcases keysFrom_eq_ok level scalar [] with ⟨keys, isOk, _, found, stand⟩
  refine ⟨keys, isOk, fun key member => ?_, stand⟩
  rcases found key member with impossible | found
  · exact absurd impossible List.not_mem_nil
  · exact found

end RecordGraph.FetchLevel
