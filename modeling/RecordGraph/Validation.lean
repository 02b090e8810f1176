import RecordGraph.Text.Decimal
import RecordGraph.Text.Surrogate
import RecordGraph.Value.Record

/-!
Contract: lenient reading of settings from values.

Owns: `Checked`, the readers of flags, whole numbers and lists of texts.
Does not own: which settings exist; `RecordGraph.Config` and `RecordGraph.Insert.Policy` do.
-/

namespace RecordGraph

open RecordGraph.Text

/-- A result, or the names of the fields at fault. -/
abbrev Checked := Except (List String)

namespace Validation

def faults {α : Type} : Checked α → List String
  | .ok _ => []
  | .error fields => fields

def ofOption {α : Type} (field : String) : Option α → Checked α
  | some value => .ok value
  | none => .error [field]

/-- Truth values, the numbers zero and one, and words of either meaning. -/
def readFlag : Value → Option Bool
  | .bool flag => some flag
  | .int number => if number = 0 then some false else if number = 1 then some true else none
  | .float number =>
      match number.toInt? with
      | some 0 => some false
      | some 1 => some true
      | _ => none
  | .text chars =>
      let word := String.ofList (chars.toList.map Char.toLower)
      if ["0", "f", "n", "no", "off", "false"].contains word then some false
      else if ["1", "t", "y", "yes", "on", "true"].contains word then some true
      else none
  | _ => none

def dropZeroFraction (chars : List Char) : Option (List Char) :=
  match chars.dropWhile (· != '.') with
  | [] => some chars
  | _ :: fraction =>
      if fraction.all (· == '0') then some (chars.takeWhile (· != '.')) else none

/-- Drops zeros before the first other digit, and underscores among them. Something is kept. -/
def dropLeadingZeros : List Char → Option (List Char)
  | '0' :: rest =>
      let isSkipped (c : Char) : Bool := c == '0' || c == '_'
      let last := ((rest.takeWhile isSkipped).getLast?).getD '0'
      match rest.dropWhile isSkipped with
      | [] => some [last]
      | '.' :: fraction => some (last :: '.' :: fraction)
      | c :: others => if c.isDigit then some (c :: others) else none
  | c :: rest => if c.isDigit then some (c :: rest) else none
  | [] => none

/-- A numeral of a whole number, possibly with leading zeros, single underscores between digits and
a zero fraction. -/
def readWholeText (text : String) : Option Int := do
  let (negative, rest) := splitSign (trim isNumeralBlank text.toList)
  let digits ← dropUnderscores false (← dropZeroFraction (← dropLeadingZeros rest))
  if digits.isEmpty || !digits.all Char.isDigit || digits.length > maxIntegerDigits then none
  else some (if negative then -(digitsValue digits : Int) else digitsValue digits)

/-- One more than the greatest whole number that a double is read as. -/
def wholeBound : Int := 0x8000000000000000

/-- Whole numbers, also as truth values, doubles of moderate size, or text. -/
def readWhole : Value → Option Int
  | .bool flag => some (if flag then 1 else 0)
  | .int number => some number
  | .float number => do
      let whole ← number.toInt?
      if -wholeBound < whole && whole < wholeBound then some whole else none
  | .text chars => readWholeText chars
  | _ => none

/-- The encodable texts of a list, or the places of the items that are none. -/
def readTexts (field : String) (position : Nat) : List Value → Checked (List String)
  | [] => .ok []
  | item :: rest =>
      let place := field ++ "." ++ toString position
      match item, readTexts field (position + 1) rest with
      | .text chars, others =>
          if hasLoneHalf chars then .error (place :: faults others)
          else others.map (chars :: ·)
      | _, others => .error (place :: faults others)

def readNames (field : String) : Value → Checked (Option (List String))
  | .null => .ok none
  | .list items => (readTexts field 0 items).map some
  | _ => .error [field]

/-- A setting that may be left out. -/
def readField {α : Type} (settings : Record) (field : String) (default : α)
    (read : Value → Checked α) : Checked α :=
  match settings.get? field with
  | none => .ok default
  | some value => read value

end Validation

end RecordGraph
