import RecordGraph.Value.Record
import RecordGraph.Text.Decimal
import RecordGraph.Text.Quoted
import RecordGraph.Text.Surrogate

/-!
Contract: document text, written and read.

Owns: `Value.toJson`, the stored form of documents, and `Value.readJson`, the reader of documents.
Does not own: the choice of which columns hold documents.

The writer separates with `", "` and `": "` and escapes everything beyond ASCII. The reader keeps
the order of fields; of repeated names the last value counts, at the place of the first. Both admit
`NaN`, `Infinity` and `-Infinity` as numbers, and halves of surrogate pairs that stand alone. The
reader stops at the first fault, from left to right.
-/

namespace RecordGraph.Value

open RecordGraph.Text

/-! ## Writing -/

/-- One or two escapes of four hexadecimal digits. -/
def jsonUnits (code : Nat) : List Char :=
  if code < 0x10000 then '\\' :: 'u' :: hexDigits 4 code
  else
    let rest := code - 0x10000
    ('\\' :: 'u' :: hexDigits 4 (0xD800 + rest / 1024))
      ++ ('\\' :: 'u' :: hexDigits 4 (0xDC00 + rest % 1024))

def jsonEscape (c : Char) : List Char :=
  if c == '"' || c == '\\' then ['\\', c]
  else if c == '\n' then ['\\', 'n']
  else if c == '\r' then ['\\', 'r']
  else if c == '\t' then ['\\', 't']
  else if c.toNat == 8 then ['\\', 'b']
  else if c.toNat == 12 then ['\\', 'f']
  else if 32 ≤ c.toNat && c.toNat < 127 then [c]
  else jsonUnits ((loneHalf? c).getD c.toNat)

def jsonText (text : String) : String :=
  "\"" ++ String.ofList (text.toList.flatMap jsonEscape) ++ "\""

def jsonFloat : Binary64 → String
  | .nan => "NaN"
  | .infinite negative => if negative then "-Infinity" else "Infinity"
  | number => showFloat number

mutual

def toJson : Value → String
  | .null => "null"
  | .bool flag => if flag then "true" else "false"
  | .int number => toString number
  | .float number => jsonFloat number
  | .text chars => jsonText chars
  | .list items => "[" ++ ", ".intercalate (itemsToJson items) ++ "]"
  | .object fields => "\x7b" ++ ", ".intercalate (fieldsToJson fields) ++ "\x7d"

def itemsToJson : List Value → List String
  | [] => []
  | item :: rest => toJson item :: itemsToJson rest

def fieldsToJson : List (String × Value) → List String
  | [] => []
  | (name, value) :: rest => (jsonText name ++ ": " ++ toJson value) :: fieldsToJson rest

end

/-! ## Reading -/

/-- Why a text cannot be read as a document. -/
inductive JsonFault where
  | malformed
  | longInteger
deriving DecidableEq, Repr, Inhabited

def isJsonBlank (c : Char) : Bool :=
  c == ' ' || c == '\t' || c == '\n' || c == '\r'

def skipJsonBlanks (chars : List Char) : List Char :=
  chars.dropWhile isJsonBlank

def readUnit : List Char → Option (Nat × List Char)
  | a :: b :: c :: d :: rest => do
      let value := ((← hexValue? a) * 16 + (← hexValue? b)) * 256
        + (← hexValue? c) * 16 + (← hexValue? d)
      some (value, rest)
  | _ => none

/-- The character of an escaped unit, or of a pair of surrogate units. -/
def readEscapedUnit (chars : List Char) : Option (Char × List Char) := do
  let (unit, rest) ← readUnit chars
  if 0xD800 ≤ unit && unit < 0xDC00 then
    match rest with
    | '\\' :: 'u' :: tail =>
        match readUnit tail with
        | some (low, rest') =>
            if 0xDC00 ≤ low && low < 0xE000 then some (ofPair unit low, rest')
            else some (ofCode unit, rest)
        | none => some (ofCode unit, rest)
    | _ => some (ofCode unit, rest)
  else some (ofCode unit, rest)

/-- The rest of a text after its opening quote; characters are gathered in reverse. -/
def readTextTail : (fuel : Nat) → List Char → List Char → Except JsonFault (String × List Char)
  | 0, _, _ => throw .malformed
  | _ + 1, _, [] => throw .malformed
  | fuel + 1, seen, c :: rest =>
      if c == '"' then pure (String.ofList seen.reverse, rest)
      else if c == '\\' then
        match rest with
        | '"' :: tail => readTextTail fuel ('"' :: seen) tail
        | '\\' :: tail => readTextTail fuel ('\\' :: seen) tail
        | '/' :: tail => readTextTail fuel ('/' :: seen) tail
        | 'b' :: tail => readTextTail fuel (Char.ofNat 8 :: seen) tail
        | 'f' :: tail => readTextTail fuel (Char.ofNat 12 :: seen) tail
        | 'n' :: tail => readTextTail fuel ('\n' :: seen) tail
        | 'r' :: tail => readTextTail fuel ('\r' :: seen) tail
        | 't' :: tail => readTextTail fuel ('\t' :: seen) tail
        | 'u' :: tail =>
            match readEscapedUnit tail with
            | some (unit, tail') => readTextTail fuel (unit :: seen) tail'
            | none => throw .malformed
        | _ => throw .malformed
      else if c.toNat < 32 then throw .malformed
      else readTextTail fuel (c :: seen) rest

/-- The text that begins after an opening quote. -/
def readJsonText (chars : List Char) : Except JsonFault (String × List Char) :=
  readTextTail (chars.length + 1) [] chars

def readFraction : List Char → List Char × List Char
  | '.' :: tail =>
      let digits := tail.takeWhile Char.isDigit
      if digits.isEmpty then ([], '.' :: tail) else ('.' :: digits, tail.dropWhile Char.isDigit)
  | chars => ([], chars)

def readPower : List Char → List Char × List Char
  | mark :: tail =>
      if mark == 'e' || mark == 'E' then
        let (sign, digits) :=
          match tail with
          | '+' :: more => (['+'], more)
          | '-' :: more => (['-'], more)
          | more => ([], more)
        let power := digits.takeWhile Char.isDigit
        if power.isEmpty then ([], mark :: tail)
        else ('e' :: sign ++ power, digits.dropWhile Char.isDigit)
      else ([], mark :: tail)
  | [] => ([], [])

/-- A number without its sign. -/
def readNumber (negative : Bool) (chars : List Char) : Except JsonFault (Value × List Char) :=
  let whole := chars.takeWhile Char.isDigit
  let whole := if whole.head? == some '0' then ['0'] else whole
  if whole.isEmpty then throw .malformed
  else
    let (fraction, rest) := readFraction (chars.drop whole.length)
    let (power, rest) := readPower rest
    if fraction.isEmpty && power.isEmpty then
      if whole.length > maxIntegerDigits then throw .longInteger
      else
        let value : Int := digitsValue whole
        pure (.int (if negative then -value else value), rest)
    else
      match readMagnitude negative (whole ++ fraction ++ power) with
      | some number => pure (.float number, rest)
      | none => throw .malformed

def jsonWords : List (List Char × Value) :=
  [("null".toList, .null), ("true".toList, .bool true), ("false".toList, .bool false),
   ("NaN".toList, .float .nan), ("Infinity".toList, .float (.infinite false)),
   ("-Infinity".toList, .float (.infinite true))]

def readWord (chars : List Char) : Option (Value × List Char) :=
  (jsonWords.find? fun word => word.1.isPrefixOf chars).map fun word =>
    (word.2, chars.drop word.1.length)

/-- A word or a number. -/
def readPlain (chars : List Char) : Except JsonFault (Value × List Char) :=
  match readWord chars with
  | some found => pure found
  | none =>
      match chars with
      | '-' :: rest => readNumber true rest
      | rest => readNumber false rest

mutual

/-- One value, after blanks. -/
def readValue : (fuel : Nat) → List Char → Except JsonFault (Value × List Char)
  | 0, _ => throw .malformed
  | fuel + 1, chars =>
      match skipJsonBlanks chars with
      | '"' :: rest => do
          let (content, tail) ← readJsonText rest
          pure (.text content, tail)
      | '[' :: rest =>
          match skipJsonBlanks rest with
          | ']' :: tail => pure (.list [], tail)
          | _ => do
              let (items, tail) ← readItems fuel [] rest
              pure (.list items, tail)
      | '\x7b' :: rest =>
          match skipJsonBlanks rest with
          | '\x7d' :: tail => pure (.object [], tail)
          | _ => do
              let (fields, tail) ← readFields fuel [] rest
              pure (.object fields, tail)
      | chars' => readPlain chars'

/-- Items up to the closing bracket, gathered in reverse. -/
def readItems : (fuel : Nat) → List Value → List Char → Except JsonFault (List Value × List Char)
  | 0, _, _ => throw .malformed
  | fuel + 1, seen, chars => do
      let (item, rest) ← readValue fuel chars
      match skipJsonBlanks rest with
      | ',' :: tail => readItems fuel (item :: seen) tail
      | ']' :: tail => pure ((item :: seen).reverse, tail)
      | _ => throw .malformed

def readFields : (fuel : Nat) → Record → List Char → Except JsonFault (Record × List Char)
  | 0, _, _ => throw .malformed
  | fuel + 1, seen, chars =>
      match skipJsonBlanks chars with
      | '"' :: rest => do
          let (name, tail) ← readJsonText rest
          match skipJsonBlanks tail with
          | ':' :: more => do
              let (value, rest') ← readValue fuel more
              let seen := Record.set name value seen
              match skipJsonBlanks rest' with
              | ',' :: tail' => readFields fuel seen tail'
              | '\x7d' :: tail' => pure (seen, tail')
              | _ => throw .malformed
          | _ => throw .malformed
      | _ => throw .malformed

end

def readJson (text : String) : Except JsonFault Value := do
  let chars := text.toList
  let (value, rest) ← readValue (chars.length + 2) chars
  if (skipJsonBlanks rest).isEmpty then pure value else throw .malformed

end RecordGraph.Value
