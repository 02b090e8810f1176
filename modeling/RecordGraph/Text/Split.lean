import RecordGraph.Text.CharClass

/-!
Contract: the pieces of a text between marks, and runs of characters.

Owns: `splitMarks`, `joinMarks`, the law that joining undoes splitting, and `joinRuns`.
Does not own: what the pieces mean.
-/

namespace RecordGraph.Text

/-- The pieces before, between and after the marks: one more than there are marks. -/
def splitMarks (mark : Char) : List Char → List (List Char)
  | [] => [[]]
  | c :: rest =>
      if c == mark then [] :: splitMarks mark rest
      else
        match splitMarks mark rest with
        | [] => [[c]]
        | first :: others => (c :: first) :: others

/-- Pieces with a mark between any two. -/
def joinMarks (mark : Char) : List (List Char) → List Char
  | [] => []
  | [only] => only
  | first :: rest => first ++ mark :: joinMarks mark rest

theorem splitMarks_ne_nil (mark : Char) (chars : List Char) : splitMarks mark chars ≠ [] := by
  cases chars with
  | nil => simp [splitMarks]
  | cons c rest =>
    simp only [splitMarks]
    split
    · simp
    · split <;> simp

theorem joinMarks_splitMarks (mark : Char) (chars : List Char) :
    joinMarks mark (splitMarks mark chars) = chars := by
  induction chars with
  | nil => rfl
  | cons c rest ih =>
    simp only [splitMarks]
    split
    next same =>
      have same : c = mark := by simpa using same
      cases pieces : splitMarks mark rest with
      | nil => exact absurd pieces (splitMarks_ne_nil mark rest)
      | cons first others => simp [joinMarks, ← pieces, ih, same]
    next =>
      cases pieces : splitMarks mark rest with
      | nil => exact absurd pieces (splitMarks_ne_nil mark rest)
      | cons first others =>
        rw [pieces] at ih
        cases others <;> simp_all [joinMarks]

/-! ## Runs -/

/-- Writes one character for each run of characters of a class. -/
def joinRuns (isRun : Char → Bool) (shown : Char) : (inRun : Bool) → List Char → List Char
  | _, [] => []
  | inRun, c :: rest =>
      if isRun c then
        if inRun then joinRuns isRun shown true rest
        else shown :: joinRuns isRun shown true rest
      else c :: joinRuns isRun shown false rest

/-- A text with single spaces for its blanks, and none at its ends. -/
def singleSpaced (text : String) : String :=
  String.ofList (joinRuns isBlank ' ' false (trim isBlank text.toList))

end RecordGraph.Text
