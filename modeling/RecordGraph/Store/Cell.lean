import RecordGraph.Schema.Table
import RecordGraph.Text.Decimal
import RecordGraph.Value.Json

/-!
Contract: stored values.

Owns: `Cell`, the affinity of column types, conversion between values and cells, the cells of
defaults, and the order and pattern matching of cells.
Does not own: rows and tables.

A column draws what is stored in it towards its affinity: a text column turns numbers into text, a
numeric one turns numerals into numbers and whole numbers into integers, a real one turns integers
into reals. What cannot be converted without loss stays as it is.
-/

namespace RecordGraph

open RecordGraph.Text

inductive Cell where
  | null
  | int (number : Int)
  | real (number : Binary64)
  | text (chars : String)
  /-- The text of a document. -/
  | document (content : Value)
deriving Repr, Inhabited, BEq

inductive Affinity where
  | integer
  | text
  | real
  | numeric
deriving DecidableEq, Repr, Inhabited

def ColumnType.affinity : ColumnType → Affinity
  | .integer | .bigInteger => .integer
  | .string => .text
  | .float => .real
  | _ => .numeric

namespace Cell

/-! ## Numbers and numerals -/

/-- One more than the greatest integer of 64 bits. -/
def wordBound : Int := 0x8000000000000000

def fitsWord (number : Int) : Bool :=
  -wordBound ≤ number && number < wordBound

/-- An integer, or the nearest real if it does not fit. -/
def ofNumber (number : Int) : Cell :=
  if fitsWord number then .int number else .real (Binary64.ofInt number)

/-- A real that is a whole number well inside 64 bits becomes an integer. -/
def wholeReal (number : Binary64) : Cell :=
  match number.toInt? with
  | some whole =>
      if -wordBound < whole && whole < wordBound - 1 then .int whole else .real number
  | none => .real number

/-- The number that a whole text is the numeral of. -/
def numeral? (text : String) : Option Cell := do
  let (negative, rest) := splitSign (trim isAsciiBlank text.toList)
  if !rest.isEmpty && rest.all Char.isDigit then
    let whole : Int := digitsValue rest
    some (ofNumber (if negative then -whole else whole))
  else some (.real (← readMagnitude negative rest))

/-- The digits of a real rounded to fifteen places, with the exponent of the first one. -/
def fifteenDigits (significand : Nat) (exponent : Int) : List Char × Int :=
  let value := Binary64.quotient significand exponent
  let guess : Int := ((value.1.log2 : Int) - (value.2.log2 : Int)) * 30103 / 100000 - 2
  let order := decimalOrder value 8 guess
  let (top, bottom) := scaleTen value (15 - order)
  let rounded := (2 * top + bottom) / (2 * bottom)
  let (rounded, order) :=
    if rounded = Nat.pow 10 15 then (Nat.pow 10 14, order + 1) else (rounded, order)
  ((toString rounded).toList, order - 1)

/-- Digits without their trailing zeros, at least one. -/
def dropTrailingZeros (digits : List Char) : List Char :=
  match (digits.reverse.dropWhile (· == '0')).reverse with
  | [] => ['0']
  | kept => kept

/-- Fifteen significant digits, positional from `10 ^ -4` up to `10 ^ 15`, always with a point.
Zero has no sign. -/
def realText : Binary64 → String
  | .nan => ""
  | .infinite negative => if negative then "-Inf" else "Inf"
  | .finite negative significand exponent =>
      if significand = 0 then "0.0"
      else
        let mark := if negative then "-" else ""
        let (digits, first) := fifteenDigits significand exponent
        let kept := dropTrailingZeros digits
        if first < -4 || first > 14 then
          let fraction := if kept.tail.isEmpty then ['0'] else kept.tail
          let shown := (toString first.natAbs).toList
          let shown := if shown.length < 2 then '0' :: shown else shown
          mark ++ String.ofList (kept.take 1 ++ '.' :: fraction
            ++ 'e' :: (if first < 0 then '-' else '+') :: shown)
        else if first < 0 then
          mark ++ "0." ++ String.ofList (List.replicate (-first - 1).toNat '0' ++ kept)
        else
          let whole := digits.take (first.toNat + 1)
          let fraction := kept.drop (first.toNat + 1)
          mark ++ String.ofList (whole ++ '.' :: (if fraction.isEmpty then ['0'] else fraction))

def toText : Cell → String
  | .null => ""
  | .int number => toString number
  | .real number => realText number
  | .text chars => chars
  | .document content => content.toJson

/-! ## Affinity -/

/-- The number that a cell's text is the numeral of. A document is a numeral if it is a number. -/
def numeric (cell : Cell) : Cell :=
  match cell with
  | .text chars => (numeral? chars).getD cell
  | .document (.int number) => ofNumber number
  | .document (.float number) => if number.isFinite then .real number else cell
  | _ => cell

/-- Draws a cell towards an affinity. A real zero loses its sign. -/
def drawn (affinity : Affinity) (cell : Cell) : Cell :=
  match affinity with
  | .text =>
      match cell with
      | .int _ | .real _ => .text cell.toText
      | _ => cell
  | .real =>
      match cell.numeric with
      | .int number => .real (Binary64.ofInt number)
      | .real number => .real (if number.isZero then .zero else number)
      | other => other
  | .integer | .numeric =>
      match cell.numeric with
      | .real number => wholeReal number
      | other => other

/-! ## Values -/

/-- The value that is bound for a parameter of a type, or nothing if the type does not take it.
Documents are bound as their text, truth values as numbers. -/
def boundValue (type : ColumnType) (value : Value) : Option Value :=
  match type with
  | .json => some (.text value.toJson)
  | .boolean =>
      match value with
      | .null => some .null
      | .bool flag => some (.int (if flag then 1 else 0))
      | .int number => if number = 0 || number = 1 then some (.int number) else none
      | .float number =>
          match number.toInt? with
          | some 0 => some (.int 0)
          | some 1 => some (.int 1)
          | _ => none
      | _ => none
  | .float =>
      match value with
      | .null => some .null
      | .bool flag => some (.float (Binary64.ofInt (if flag then 1 else 0)))
      | .int number =>
          let nearest := Binary64.ofInt number
          if nearest.isFinite then some (.float nearest) else none
      | .float number => some (.float number)
      | .text chars => (readFloat chars).map Value.float
      | _ => none
  | .date => if value.isNull then some .null else none
  | _ => some value

/-- The cell of a scalar. What is not a number is null. -/
def ofValue : Value → Cell
  | .null => .null
  | .bool flag => .int (if flag then 1 else 0)
  | .int number => .int number
  | .float number =>
      match number with
      | .nan => .null
      | _ => .real number
  | .text chars => .text chars
  | .list items => .document (.list items)
  | .object fields => .document (.object fields)

def ofParameter (type : ColumnType) (value : Value) : Cell :=
  match type with
  | .json => .document value
  | _ => ofValue ((boundValue type value).getD .null)

/-- What a column of a type stores for a value. -/
def stored (type : ColumnType) (value : Value) : Cell :=
  (ofParameter type value).drawn type.affinity

/-- The document that a text is of. A text of none stays as it is. -/
def ofDocument (chars : String) : Cell :=
  match Value.readJson chars with
  | .ok content => .document content
  | .error _ => .text chars

def ofLiteral (type : ColumnType) : Literal → Cell
  | .null => .null
  | .integer number => ofNumber number
  | .real number => ofValue (.float number)
  | .text chars => if type = .json then ofDocument chars else .text chars

/-- The value that a column of a type gives for a cell. -/
def toValue (type : ColumnType) (cell : Cell) : Value :=
  match type, cell with
  | _, .null => .null
  | .boolean, .int number => .bool (number != 0)
  | .boolean, .real number => .bool !number.isZero
  | .boolean, .text chars => .bool !chars.isEmpty
  | _, .int number => .int number
  | _, .real number => .float number
  | _, .text chars => .text chars
  | _, .document content => content

/-- The greatest magnitude of a whole real that an insert hands back as an integer. -/
def handedBound : Int := 0x800000000000

/-- A cell as an insert hands it back: a whole real of at most 48 bits is an integer. -/
def handedBack (cell : Cell) : Cell :=
  match cell with
  | .real number =>
      match number.toInt? with
      | some whole =>
          if -handedBound ≤ whole && whole < handedBound then .int whole else cell
      | none => cell
  | _ => cell

/-! ## Order -/

/-- Numbers come before texts, and null before both. -/
def rank : Cell → Nat
  | .null => 0
  | .int _ | .real _ => 1
  | .text _ | .document _ => 2

def compareNumbers : Cell → Cell → Ordering
  | .int left, .int right => compare left right
  | .int left, .real right => ((right.compareInt? left).getD .eq).swap
  | .real left, .int right => (left.compareInt? right).getD .eq
  | .real left, .real right => (left.compare? right).getD .eq
  | _, _ => .eq

/-- The order of cells: by rank, then by number or by code points. -/
def order (left right : Cell) : Ordering :=
  match compare left.rank right.rank with
  | .eq =>
      if left.rank = 2 then compare left.toText right.toText else compareNumbers left right
  | other => other

def sameAs (left right : Cell) : Bool := left.order right == .eq

/-! ## Patterns -/

/-- Whether characters match a pattern. A percent sign stands for any characters, an underscore
for one, and letters of ASCII for both their cases. -/
def matchesPattern : (pattern chars : List Char) → Bool
  | [], [] => true
  | [], _ :: _ => false
  | '%' :: pattern, [] => matchesPattern pattern []
  | '%' :: pattern, c :: rest =>
      matchesPattern pattern (c :: rest) || matchesPattern ('%' :: pattern) rest
  | '_' :: pattern, _ :: rest => matchesPattern pattern rest
  | _ :: _, [] => false
  | mark :: pattern, c :: rest => mark.toLower == c.toLower && matchesPattern pattern rest
termination_by pattern chars => pattern.length + chars.length

/-- The characters of a cell that take part in matching: those before the first null character. -/
def patternChars (cell : Cell) : List Char :=
  cell.toText.toList.takeWhile (·.toNat != 0)

/-- Whether a cell matches the pattern in another one. -/
def isLike (cell pattern : Cell) : Bool :=
  matchesPattern pattern.patternChars cell.patternChars

end Cell

/-- What a column stores if it is given no value. -/
def Column.preset (column : Column) : Cell :=
  if column.primaryKey then .null
  else (Cell.ofLiteral column.type column.fallback).drawn column.type.affinity

end RecordGraph
