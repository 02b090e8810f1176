/-!
Contract: halves of surrogate pairs that stand alone in a text.

Owns: the characters that hold such halves, and the question whether a text has any.
Does not own: the escapes that write them.

A half is no character. Each of the 2048 halves is held as a character of the last private plane,
at a constant distance from its code.
-/

namespace RecordGraph.Text

def isSurrogate (code : Nat) : Bool :=
  0xD800 ≤ code && code < 0xE000

/-- The distance between a half and the character that holds it. -/
def surrogateDistance : Nat := 0x100000

/-- The character of a code, or the one that holds it if it is half of a pair. -/
def ofCode (code : Nat) : Char :=
  Char.ofNat (if isSurrogate code then code + surrogateDistance else code)

/-- The half that a character holds. -/
def loneHalf? (c : Char) : Option Nat :=
  let code := c.toNat - surrogateDistance
  if isSurrogate code then some code else none

def hasLoneHalf (text : String) : Bool :=
  text.toList.any fun c => (loneHalf? c).isSome

/-- The character of the two halves of a pair. -/
def ofPair (high low : Nat) : Char :=
  Char.ofNat (0x10000 + (high - 0xD800) * 1024 + (low - 0xDC00))

/-- The characters of sixteen-bit units. Halves that do not pair stand alone. -/
def ofUnits : List Nat → List Char
  | [] => []
  | [unit] => [ofCode unit]
  | high :: low :: rest =>
      if 0xD800 ≤ high && high < 0xDC00 && 0xDC00 ≤ low && low < 0xE000 then
        ofPair high low :: ofUnits rest
      else ofCode high :: ofUnits (low :: rest)

end RecordGraph.Text
