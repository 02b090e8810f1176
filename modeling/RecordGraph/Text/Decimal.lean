import RecordGraph.Text.Binary64
import RecordGraph.Text.CharClass

/-!
Contract: decimal text of integers and doubles.

Owns: reading of integers and of floating-point numerals, and the shortest decimal numeral that
reads back as a given double.
Does not own: the number types.

Numerals may be set in blanks, may carry a sign, may use the decimal digits of any script, and may
have single underscores between digits.
-/

namespace RecordGraph.Text

/-- Blanks around a numeral: ASCII white space and every blank beyond ASCII. -/
def isNumeralBlank (c : Char) : Bool :=
  if c.toNat < 128 then isAsciiBlank c else isBlank c

def asciiDigits (chars : List Char) : List Char :=
  chars.map fun c =>
    match digitValue? c with
    | some value => Char.ofNat (48 + value)
    | none => c

/-- Drops single underscores that stand between digits; `none` for any other underscore. -/
def dropUnderscores : (afterDigit : Bool) → List Char → Option (List Char)
  | _, [] => some []
  | afterDigit, '_' :: rest =>
      match rest with
      | [] => none
      | next :: _ => if afterDigit && next.isDigit then dropUnderscores false rest else none
  | _, c :: rest => (dropUnderscores c.isDigit rest).map (c :: ·)

def digitsValue (digits : List Char) : Nat :=
  digits.foldl (fun value c => value * 10 + (c.toNat - 48)) 0

def splitSign : List Char → Bool × List Char
  | '-' :: rest => (true, rest)
  | '+' :: rest => (false, rest)
  | chars => (false, chars)

/-- The most digits an integer numeral may have. -/
def maxIntegerDigits : Nat := 4300

def readInt (text : String) : Option Int := do
  let chars := asciiDigits (trim isNumeralBlank text.toList)
  let (negative, digits) := splitSign chars
  let digits ← dropUnderscores false digits
  if digits.isEmpty || !digits.all Char.isDigit || digits.length > maxIntegerDigits then none
  else some (if negative then -(digitsValue digits : Int) else digitsValue digits)

/-- The double nearest to `digits * 10 ^ exponent`. Numerals far outside the range of doubles are
settled by their order of magnitude. -/
def ofDecimal (negative : Bool) (digits : List Char) (exponent : Int) : Binary64 :=
  let digits := digits.dropWhile (· == '0')
  let magnitude : Int := digits.length + exponent
  if digits.isEmpty || magnitude < -400 then Binary64.ofQuotient negative 0 1
  else if magnitude > 400 then .infinite negative
  else if 0 ≤ exponent then
    Binary64.ofQuotient negative (digitsValue digits * Nat.pow 10 exponent.toNat) 1
  else Binary64.ofQuotient negative (digitsValue digits) (Nat.pow 10 (-exponent).toNat)

/-- Reads the exponent part of a numeral, absent or `e`, a sign and digits. -/
def readExponent : List Char → Option Int
  | [] => some 0
  | mark :: rest =>
      if mark == 'e' || mark == 'E' then
        let (negative, digits) := splitSign rest
        if digits.isEmpty || !digits.all Char.isDigit then none
        else some (if negative then -(digitsValue digits : Int) else digitsValue digits)
      else none

def readMagnitude (negative : Bool) (chars : List Char) : Option Binary64 := do
  let whole := chars.takeWhile Char.isDigit
  let rest := chars.dropWhile Char.isDigit
  let (fraction, rest) :=
    match rest with
    | '.' :: tail => (tail.takeWhile Char.isDigit, tail.dropWhile Char.isDigit)
    | _ => ([], rest)
  if whole.isEmpty && fraction.isEmpty then none
  else
    let exponent ← readExponent rest
    some (ofDecimal negative (whole ++ fraction) (exponent - fraction.length))

def readFloat (text : String) : Option Binary64 := do
  let chars := asciiDigits (trim isNumeralBlank text.toList)
  let chars ← if chars.contains '_' then dropUnderscores false chars else some chars
  let (negative, rest) := splitSign chars
  let word := String.ofList (rest.map Char.toLower)
  if word = "inf" || word = "infinity" then some (.infinite negative)
  else if word = "nan" then some .nan
  else readMagnitude negative rest

/-! ## Writing -/

/-- `value * 10 ^ places` of a quotient, as a quotient. -/
def scaleTen (value : Nat × Nat) (places : Int) : Nat × Nat :=
  if 0 ≤ places then (value.1 * Nat.pow 10 places.toNat, value.2)
  else (value.1, value.2 * Nat.pow 10 (-places).toNat)

/-- The least `p` with `value < 10 ^ p`, searched upward from a guess. -/
def decimalOrder (value : Nat × Nat) : (fuel : Nat) → Int → Int
  | 0, p => p
  | fuel + 1, p =>
      let (top, bottom) := scaleTen value (-p)
      if top < bottom then p else decimalOrder value fuel (p + 1)

/-- Whether `digits * 10 ^ exponent` reads back as the given double. -/
def readsBack (target : Binary64) (digits : Nat) (exponent : Int) : Bool :=
  ofDecimal false (toString digits).toList exponent == target

/-- The neighbour of `value` on the grid of multiples of `10 ^ exponent` that reads back, the
nearer one if both do. -/
def gridHit (target : Binary64) (value : Nat × Nat) (exponent : Int) : Option Nat :=
  let (top, bottom) := scaleTen value (-exponent)
  let below := top / bottom
  let twice := 2 * (top % bottom)
  let nearer := if twice > bottom || (twice == bottom && below % 2 == 1) then below + 1 else below
  let farther := if nearer = below then below + 1 else below
  if readsBack target nearer exponent then some nearer
  else if readsBack target farther exponent then some farther
  else none

/-- The coarsest decimal grid with a point that reads back, from `count` digits on. -/
def shortestFrom (target : Binary64) (value : Nat × Nat) (order : Int) :
    (remaining count : Nat) → Nat × Int
  | 0, count => (0, order - count)
  | remaining + 1, count =>
      let exponent := order - count
      match gridHit target value exponent with
      | some digits => (digits, exponent)
      | none => shortestFrom target value order remaining (count + 1)

/-- Drops trailing zeros of the digits and raises the exponent accordingly. -/
def dropZeros : (fuel : Nat) → Nat → Int → Nat × Int
  | 0, digits, exponent => (digits, exponent)
  | fuel + 1, digits, exponent =>
      if digits != 0 && digits % 10 == 0 then dropZeros fuel (digits / 10) (exponent + 1)
      else (digits, exponent)

/-- The fewest digits, and their exponent of ten, that read back as a positive double. -/
def shortest (significand : Nat) (exponent : Int) : Nat × Int :=
  let value := Binary64.quotient significand exponent
  let guess : Int := ((value.1.log2 : Int) - (value.2.log2 : Int)) * 30103 / 100000 - 2
  let order := decimalOrder value 8 guess
  let (digits, exponent) := shortestFrom (.finite false significand exponent) value order 18 1
  dropZeros 20 digits exponent

/-- Numbers from `10 ^ -4` up to `10 ^ 16` are written positionally, all others with an exponent
of at least two digits. -/
def layoutDigits (digits : List Char) (exponent : Int) : List Char :=
  let point : Int := digits.length + exponent
  if -4 < point && point ≤ 16 then
    if point ≤ 0 then '0' :: '.' :: List.replicate (-point).toNat '0' ++ digits
    else if exponent ≥ 0 then digits ++ List.replicate exponent.toNat '0' ++ ['.', '0']
    else digits.take point.toNat ++ '.' :: digits.drop point.toNat
  else
    let power := point - 1
    let shown := (toString power.natAbs).toList
    let shown := if shown.length < 2 then '0' :: shown else shown
    let mantissa :=
      match digits with
      | [] => []
      | [only] => [only]
      | first :: rest => first :: '.' :: rest
    mantissa ++ 'e' :: (if power < 0 then '-' else '+') :: shown

/-- The shortest numeral of a double. -/
def showFloat : Binary64 → String
  | .nan => "nan"
  | .infinite negative => if negative then "-inf" else "inf"
  | .finite negative significand exponent =>
      let mark := if negative then "-" else ""
      if significand = 0 then mark ++ "0.0"
      else
        let (digits, power) := shortest significand exponent
        mark ++ String.ofList (layoutDigits (toString digits).toList power)

end RecordGraph.Text
