import RecordGraph.Error

/-!
Contract: inversion of successful results.

Owns: what a successful step, a successful check and a successful walk through a list say about
their parts.
Does not own: which operations succeed.
-/

namespace RecordGraph.Result

theorem bind_eq_ok {ε α β : Type} {step : Except ε α} {next : α → Except ε β} {outcome : β} :
    step >>= next = .ok outcome ↔ ∃ value, step = .ok value ∧ next value = .ok outcome := by
  cases step with
  | error failure =>
      constructor
      · intro succeeded
        cases succeeded
      · rintro ⟨value, impossible, _⟩
        cases impossible
  | ok value =>
      constructor
      · intro succeeded
        exact ⟨value, rfl, succeeded⟩
      · rintro ⟨other, same, succeeded⟩
        cases same
        exact succeeded

theorem pure_eq_ok {ε α : Type} {value outcome : α} :
    (pure value : Except ε α) = .ok outcome ↔ value = outcome := by
  constructor
  · intro same
    exact Except.ok.inj same
  · rintro rfl
    rfl

theorem map_eq_ok {ε α β : Type} {finish : α → β} {result : Except ε α} {outcome : β} :
    result.map finish = .ok outcome ↔ ∃ value, result = .ok value ∧ finish value = outcome := by
  cases result with
  | error failure =>
      constructor
      · intro impossible
        cases impossible
      · rintro ⟨_, impossible, _⟩
        cases impossible
  | ok value =>
      constructor
      · intro succeeded
        exact ⟨value, rfl, Except.ok.inj succeeded⟩
      · rintro ⟨_, same, rfl⟩
        cases same
        rfl

theorem map_eq_error {ε α β : Type} {finish : α → β} {result : Except ε α} {failure : ε} :
    result.map finish = .error failure ↔ result = .error failure := by
  cases result with
  | error other =>
      constructor
      · intro same
        cases same
        rfl
      · rintro ⟨⟩
        rfl
  | ok value => exact iff_of_false nofun nofun

theorem exists_bind_eq_ok {α β : Type} {step : Result α} {next : α → Result β} :
    (∃ outcome, step >>= next = .ok outcome) ↔
      ∃ value, step = .ok value ∧ ∃ outcome, next value = .ok outcome := by
  constructor
  · rintro ⟨outcome, succeeded⟩
    rcases bind_eq_ok.1 succeeded with ⟨value, stepOk, nextOk⟩
    exact ⟨value, stepOk, outcome, nextOk⟩
  · rintro ⟨value, stepOk, outcome, nextOk⟩
    exact ⟨outcome, bind_eq_ok.2 ⟨value, stepOk, nextOk⟩⟩

theorem exists_pure_eq_ok {α : Type} (value : α) :
    ∃ outcome, (pure value : Result α) = .ok outcome :=
  ⟨value, rfl⟩

theorem throw_ne_ok {α : Type} {failure : Error} {outcome : α} :
    (throw failure : Result α) ≠ .ok outcome := by
  intro impossible
  cases impossible

theorem bind_eq_error {ε α β : Type} {step : Except ε α} {next : α → Except ε β} {failure : ε} :
    step >>= next = .error failure ↔
      step = .error failure ∨ ∃ value, step = .ok value ∧ next value = .error failure := by
  cases step with
  | error other =>
      constructor
      · intro failed
        cases failed
        exact Or.inl rfl
      · rintro (failed | ⟨_, impossible, _⟩)
        · cases failed
          rfl
        · cases impossible
  | ok value =>
      constructor
      · intro failed
        exact Or.inr ⟨value, rfl, failed⟩
      · rintro (impossible | ⟨_, same, failed⟩)
        · cases impossible
        · cases same
          exact failed

/-- How a step fails does not depend on what is made of its value. -/
theorem bind_pure_eq_error {ε α β γ : Type} {step : Except ε α} {finish : α → β} {other : α → γ}
    {failure : ε} (failed : (step >>= fun value => pure (finish value)) = .error failure) :
    (step >>= fun value => pure (other value)) = .error failure := by
  rcases bind_eq_error.1 failed with failed | ⟨_, _, impossible⟩
  · exact bind_eq_error.2 (Or.inl failed)
  · cases impossible

theorem mapM_cons_eq_ok {α β : Type} {step : α → Result β} {head : α} {tail : List α}
    {outcomes : List β} :
    (head :: tail).mapM step = .ok outcomes ↔
      ∃ first rest, step head = .ok first ∧ tail.mapM step = .ok rest ∧
        outcomes = first :: rest := by
  rw [List.mapM_cons]
  constructor
  · intro succeeded
    rcases bind_eq_ok.1 succeeded with ⟨first, headOk, succeeded⟩
    rcases bind_eq_ok.1 succeeded with ⟨rest, tailOk, succeeded⟩
    exact ⟨first, rest, headOk, tailOk, (pure_eq_ok.1 succeeded).symm⟩
  · rintro ⟨first, rest, headOk, tailOk, rfl⟩
    rw [headOk, tailOk]
    rfl

theorem mapM_nil_eq_ok {α β : Type} {step : α → Result β} {outcomes : List β} :
    [].mapM step = .ok outcomes ↔ outcomes = [] := by
  constructor
  · intro succeeded
    exact (Except.ok.inj succeeded).symm
  · rintro rfl
    rfl

/-- What fails in a walk through a list is one of its steps. -/
theorem exists_of_mapM_eq_error {α β : Type} {step : α → Result β} {items : List α}
    {failure : Error} (failed : items.mapM step = .error failure) :
    ∃ item ∈ items, step item = .error failure := by
  induction items with
  | nil => cases failed
  | cons head tail inductionHypothesis =>
      rw [List.mapM_cons] at failed
      rcases bind_eq_error.1 failed with headFailed | ⟨_, _, failed⟩
      · exact ⟨head, List.mem_cons_self .., headFailed⟩
      · rcases bind_eq_error.1 failed with tailFailed | ⟨_, _, impossible⟩
        · obtain ⟨item, member, itemFailed⟩ := inductionHypothesis tailFailed
          exact ⟨item, List.mem_cons_of_mem _ member, itemFailed⟩
        · cases impossible

/-- What a walk through a list gives was given by one of its steps. -/
theorem exists_of_mem_mapM {α β : Type} {step : α → Result β} {items : List α} {outcomes : List β}
    (succeeded : items.mapM step = .ok outcomes) {outcome : β} (member : outcome ∈ outcomes) :
    ∃ item ∈ items, step item = .ok outcome := by
  induction items generalizing outcomes with
  | nil =>
      rw [mapM_nil_eq_ok.1 succeeded] at member
      exact absurd member List.not_mem_nil
  | cons head tail inductionHypothesis =>
      obtain ⟨first, rest, headOk, tailOk, rfl⟩ := mapM_cons_eq_ok.1 succeeded
      rcases List.mem_cons.1 member with rfl | inRest
      · exact ⟨head, List.mem_cons_self .., headOk⟩
      · obtain ⟨item, isItem, itemOk⟩ := inductionHypothesis tailOk inRest
        exact ⟨item, List.mem_cons_of_mem _ isItem, itemOk⟩

theorem exists_mapM_eq_ok_iff {α β : Type} {step : α → Result β} {items : List α} :
    (∃ outcomes, items.mapM step = .ok outcomes) ↔
      ∀ item ∈ items, ∃ outcome, step item = .ok outcome := by
  induction items with
  | nil => exact iff_of_true ⟨[], rfl⟩ fun item member => absurd member List.not_mem_nil
  | cons head tail inductionHypothesis =>
      rw [List.forall_mem_cons, ← inductionHypothesis]
      constructor
      · rintro ⟨outcomes, succeeded⟩
        obtain ⟨first, rest, headOk, tailOk, _⟩ := mapM_cons_eq_ok.1 succeeded
        exact ⟨⟨first, headOk⟩, rest, tailOk⟩
      · rintro ⟨⟨first, headOk⟩, rest, tailOk⟩
        exact ⟨first :: rest, mapM_cons_eq_ok.2 ⟨first, rest, headOk, tailOk, rfl⟩⟩

theorem mapM_eq_ok_map {α β : Type} {step : α → Result β} {value : α → β} {items : List α}
    (steps : ∀ item ∈ items, step item = .ok (value item)) :
    items.mapM step = .ok (items.map value) := by
  induction items with
  | nil => rfl
  | cons head tail inductionHypothesis =>
      rw [List.forall_mem_cons] at steps
      rw [mapM_cons_eq_ok]
      exact ⟨value head, tail.map value, steps.1, inductionHypothesis steps.2, rfl⟩

end RecordGraph.Result
