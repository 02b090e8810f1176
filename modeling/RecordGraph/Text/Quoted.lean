import RecordGraph.Text.CharClass
import RecordGraph.Text.Surrogate

/-!
Contract: the quoted form of names and texts in messages.

Owns: `quote`, `quoteList`, and hexadecimal digits.
Does not own: quoting of SQL identifiers.

A text is set between single quotes, or between double quotes when it holds a single quote and no
double quote. The backslash, the chosen quote, and every character that is not printable are
escaped.
-/

namespace RecordGraph.Text

def hexDigit (n : Nat) : Char :=
  if n < 10 then Char.ofNat (48 + n) else Char.ofNat (87 + n)

def hexValue? (c : Char) : Option Nat :=
  if c.isDigit then some (c.toNat - 48)
  else if 'a' ≤ c && c ≤ 'f' then some (c.toNat - 87)
  else if 'A' ≤ c && c ≤ 'F' then some (c.toNat - 55)
  else none

def hexDigits : (width : Nat) → Nat → List Char
  | 0, _ => []
  | width + 1, n => hexDigits width (n / 16) ++ [hexDigit (n % 16)]

/-- The escape of a character that is not printable, as short as its code point allows. -/
def escapeUnprintable (c : Char) : List Char :=
  let code := (loneHalf? c).getD c.toNat
  if code < 0x100 then '\\' :: 'x' :: hexDigits 2 code
  else if code < 0x10000 then '\\' :: 'u' :: hexDigits 4 code
  else '\\' :: 'U' :: hexDigits 8 code

def escapeIn (mark c : Char) : List Char :=
  if c == '\\' || c == mark then ['\\', c]
  else if c == '\n' then ['\\', 'n']
  else if c == '\r' then ['\\', 'r']
  else if c == '\t' then ['\\', 't']
  else if isPrintable c then [c]
  else escapeUnprintable c

/-- The quotation mark that needs the fewest escapes, the single one in a tie. -/
def quoteMark (chars : List Char) : Char :=
  if chars.contains '\'' && !chars.contains '"' then '"' else '\''

def quoteChars (chars : List Char) : List Char :=
  let mark := quoteMark chars
  mark :: chars.flatMap (escapeIn mark) ++ [mark]

def quote (text : String) : String :=
  String.ofList (quoteChars text.toList)

def quoteList (texts : List String) : String :=
  "[" ++ ", ".intercalate (texts.map quote) ++ "]"

end RecordGraph.Text
