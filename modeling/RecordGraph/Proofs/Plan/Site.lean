import RecordGraph.Plan.Insert

/-!
Contract: the sites of a payload, and the order in which they are filled.

Owns: `Step`, `Place` and `Site`, the order of sites, and what that order says about a record, the
records it belongs to, its members and their links.
Does not own: which sites a payload has, and the operations that fill them.

A place is reached from a root record by steps through fields. Every record has a site, and so has
every link of a record to a member of a many-to-many relation. The records a record belongs to are
filled first, then the record, then its members by field and item, each with its link at the end.
-/

namespace RecordGraph

/-- One step from a record to one that it holds. Fields and items are counted from zero. -/
inductive Step where
  /-- To the record that a field says it belongs to. -/
  | owner (field : Nat)
  /-- To an item of the collection in a field. -/
  | member (field item : Nat)
deriving DecidableEq, Repr, Inhabited

namespace Step

/-- The order among the steps of one record. -/
def Before : Step → Step → Prop
  | .owner field, .owner field' => field < field'
  | .owner _, .member _ _ => True
  | .member _ _, .owner _ => False
  | .member field item, .member field' item' => field < field' ∨ field = field' ∧ item < item'

theorem before_asymm {left right : Step} (before : left.Before right) :
    ¬ right.Before left := by
  cases left with
  | owner field =>
      cases right with
      | owner field' => exact Nat.lt_asymm before
      | member field' item' => exact id
  | member field item =>
      cases right with
      | owner field' => exact before.elim
      | member field' item' =>
          simp only [Before] at before ⊢
          omega

theorem before_irrefl (step : Step) : ¬ step.Before step :=
  fun before => before_asymm before before

end Step

/-- The steps to a record from the record at which counting starts. -/
abbrev Place := List Step

/-- What one operation inserts: a record, or the link of a record to the one that holds it. -/
inductive Site where
  | record (place : Place)
  | link (place : Place)
deriving DecidableEq, Repr, Inhabited

namespace Site

/-- The place of a record, or of the record that a link is about. -/
def place : Site → Place
  | .record place => place
  | .link place => place

/-- The same site, seen from the record that is one step further up. -/
def under (step : Step) : Site → Site
  | .record place => .record (step :: place)
  | .link place => .link (step :: place)

/-- Whether what lies below a step comes before the record at which the step starts, or before the
link of that record. -/
def BelowFirst (step : Step) : (isLink : Bool) → Prop
  | true => True
  | false =>
      match step with
      | .owner _ => True
      | .member _ _ => False

/-- The order of places, each with the mark of a link. -/
def PlaceBefore : Place → Bool → Place → Bool → Prop
  | [], isLink, [], isLink' => isLink = false ∧ isLink' = true
  | [], isLink, step :: _, _ => ¬ BelowFirst step isLink
  | step :: _, _, [], isLink => BelowFirst step isLink
  | step :: rest, isLink, step' :: rest', isLink' =>
      step.Before step' ∨ step = step' ∧ PlaceBefore rest isLink rest' isLink'

def isLink : Site → Bool
  | .record _ => false
  | .link _ => true

/-- The order in which sites are filled. -/
def Before (left right : Site) : Prop :=
  PlaceBefore left.place left.isLink right.place right.isLink

@[simp] theorem place_under (step : Step) (site : Site) :
    (site.under step).place = step :: site.place := by
  cases site <;> rfl

@[simp] theorem isLink_under (step : Step) (site : Site) :
    (site.under step).isLink = site.isLink := by
  cases site <;> rfl

theorem under_injective (step : Step) {left right : Site}
    (same : left.under step = right.under step) : left = right := by
  cases left <;> cases right <;> simp [under] at same <;> rw [same]

/-- Sites below one step are in the order that they have below it. -/
theorem before_under_iff (step : Step) (left right : Site) :
    (left.under step).Before (right.under step) ↔ left.Before right := by
  simp only [Before, place_under, isLink_under, PlaceBefore, true_and]
  constructor
  · rintro (impossible | before)
    · exact absurd impossible (Step.before_irrefl step)
    · exact before
  · exact Or.inr

private theorem placeBefore_asymm (left : Place) :
    ∀ (isLink : Bool) (right : Place) (isLink' : Bool),
      PlaceBefore left isLink right isLink' → ¬ PlaceBefore right isLink' left isLink := by
  induction left with
  | nil =>
      intro isLink right isLink' before
      cases right with
      | nil =>
          simp only [PlaceBefore] at before ⊢
          simp [before.1]
      | cons step rest => exact before
  | cons step rest inductionHypothesis =>
      intro isLink right isLink' before
      cases right with
      | nil => exact fun after => after before
      | cons step' rest' =>
          simp only [PlaceBefore] at before ⊢
          rintro (stepAfter | ⟨same, after⟩)
          · rcases before with stepBefore | ⟨same, _⟩
            · exact Step.before_asymm stepBefore stepAfter
            · exact Step.before_irrefl step' (by rw [same] at stepAfter; exact stepAfter)
          · rcases before with stepBefore | ⟨_, before⟩
            · exact Step.before_irrefl step' (by rw [← same] at stepBefore; exact stepBefore)
            · exact inductionHypothesis isLink rest' isLink' before after

theorem before_asymm {left right : Site} (before : left.Before right) : ¬ right.Before left :=
  placeBefore_asymm left.place left.isLink right.place right.isLink before

theorem ne_of_before {left right : Site} (before : left.Before right) : left ≠ right := by
  rintro rfl
  exact before_asymm before before

/-! ## What the order says -/

/-- Whether a site lies at a place or below it. -/
def Within (place : Place) (site : Site) : Prop := place <+: site.place

private theorem placeBefore_append (start left right : Place) (isLink isLink' : Bool) :
    PlaceBefore (start ++ left) isLink (start ++ right) isLink' ↔
      PlaceBefore left isLink right isLink' := by
  induction start with
  | nil => rfl
  | cons step rest inductionHypothesis =>
      simp only [List.cons_append, PlaceBefore, true_and, inductionHypothesis]
      constructor
      · rintro (impossible | before)
        · exact absurd impossible (Step.before_irrefl step)
        · exact before
      · exact Or.inr

/-- Everything at or below a record that a record belongs to comes before that record. -/
theorem before_record_of_owner (place : Place) {field : Nat} {site : Site}
    (within : site.Within (place ++ [.owner field])) : site.Before (.record place) := by
  rcases within with ⟨rest, same⟩
  have relative := (placeBefore_append place (.owner field :: rest) [] site.isLink false).2 trivial
  change PlaceBefore site.place site.isLink place false
  rw [← same]
  simpa using relative

/-- Everything at or below a member of a record comes after that record. -/
theorem record_before_of_member (place : Place) {field item : Nat} {site : Site}
    (within : site.Within (place ++ [.member field item])) : (Site.record place).Before site := by
  rcases within with ⟨rest, same⟩
  have relative :=
    (placeBefore_append place [] (.member field item :: rest) false site.isLink).2 id
  change PlaceBefore place false site.place site.isLink
  rw [← same]
  simpa using relative

/-- Everything at or below a step comes before everything at or below a later one. -/
theorem before_of_steps (place : Place) {step step' : Step} {left right : Site}
    (before : step.Before step') (leftWithin : left.Within (place ++ [step]))
    (rightWithin : right.Within (place ++ [step'])) : left.Before right := by
  rcases leftWithin with ⟨leftRest, leftSame⟩
  rcases rightWithin with ⟨rightRest, rightSame⟩
  have relative := (placeBefore_append place (step :: leftRest) (step' :: rightRest)
    left.isLink right.isLink).2 (Or.inl before)
  simp only [Before, ← leftSame, ← rightSame]
  simpa using relative

/-- A link comes after everything else at or below the place that it is about. -/
theorem before_link {place : Place} {site : Site} (within : site.Within place)
    (other : site ≠ .link place) : site.Before (.link place) := by
  rcases within with ⟨rest, same⟩
  have relative : PlaceBefore rest site.isLink [] true := by
    cases rest with
    | nil =>
        cases site with
        | record place' => exact ⟨rfl, rfl⟩
        | link place' =>
            simp only [Site.place, List.append_nil] at same
            exact absurd (by rw [same]) other
    | cons step rest' => trivial
  have absolute := (placeBefore_append place rest [] site.isLink true).2 relative
  change PlaceBefore site.place site.isLink place true
  rw [← same]
  simpa using absolute

end Site

end RecordGraph
