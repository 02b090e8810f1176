import RecordGraph.Text.Ranges

/-!
Contract: the character properties of names, blanks, digits and printable text.

Owns: the predicates over characters and identifiers, and the value of a decimal digit.
Does not own: the code point ranges; `RecordGraph.Text.Ranges` has them.
-/

namespace RecordGraph.Text

def inRanges (ranges : List (Nat × Nat)) (code : Nat) : Bool :=
  ranges.any fun range => range.1 ≤ code && code ≤ range.2

def isAsciiBlank (c : Char) : Bool :=
  c.toNat == 32 || (9 ≤ c.toNat && c.toNat ≤ 13)

/-- White space, including the four information separators. -/
def isBlank (c : Char) : Bool :=
  if c.toNat < 128 then isAsciiBlank c || (28 ≤ c.toNat && c.toNat ≤ 31)
  else inRanges Ranges.blank c.toNat

/-- Letters, digits, other numerals and the underscore. -/
def isWord (c : Char) : Bool :=
  if c.toNat < 128 then c.isAlphanum || c == '_'
  else inRanges Ranges.word c.toNat

def isIdentifierStart (c : Char) : Bool :=
  if c.toNat < 128 then c.isAlpha || c == '_'
  else inRanges Ranges.identifierStart c.toNat

def isIdentifierContinue (c : Char) : Bool :=
  if c.toNat < 128 then c.isAlphanum || c == '_'
  else inRanges Ranges.identifierContinue c.toNat

/-- A start character followed by continuing characters. -/
def isIdentifier (text : String) : Bool :=
  match text.toList with
  | [] => false
  | first :: rest => isIdentifierStart first && rest.all isIdentifierContinue

/-- Letters, marks, decimal digits, connectors and joiners. -/
def isLabelPart (c : Char) : Bool :=
  if c.toNat < 128 then c.isAlphanum || c == '_'
  else inRanges Ranges.labelPart c.toNat

def isCased (c : Char) : Bool :=
  if c.toNat < 128 then c.isAlpha else inRanges Ranges.cased c.toNat

def isCaseIgnorable (c : Char) : Bool :=
  if c.toNat < 128 then ['\'', '.', ':', '^', Char.ofNat 96].contains c
  else inRanges Ranges.caseIgnorable c.toNat

/-- Characters that quoted text shows as themselves. -/
def isPrintable (c : Char) : Bool :=
  if c.toNat < 128 then 32 ≤ c.toNat && c.toNat < 127
  else !inRanges Ranges.unprintable c.toNat

def digitValue? (c : Char) : Option Nat :=
  if c.isDigit then some (c.toNat - 48)
  else if c.toNat < 128 then none
  else
    match Ranges.digitZeros.find? fun first => first ≤ c.toNat && c.toNat < first + 10 with
    | some first => some (c.toNat - first)
    | none => none

def trim (drop : Char → Bool) (chars : List Char) : List Char :=
  ((chars.dropWhile drop).reverse.dropWhile drop).reverse

end RecordGraph.Text
