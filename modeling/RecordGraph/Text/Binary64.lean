/-!
Contract: double-precision numbers as exact values, with correct rounding to them.

Owns: the type `Binary64`, rounding of a quotient of natural numbers, comparison with integers.
Does not own: decimal text; `RecordGraph.Text.Decimal` reads and writes it.

A finite number is `significand * 2 ^ exponent` with a sign. The significand of a normal number
lies in `[2^52, 2^53)`; subnormal numbers and zero have the least exponent, -1074.
-/

namespace RecordGraph

inductive Binary64 where
  | finite (negative : Bool) (significand : Nat) (exponent : Int)
  | infinite (negative : Bool)
  | nan
deriving DecidableEq, Repr, Inhabited

namespace Binary64

def minExponent : Int := -1074

def maxExponent : Int := 971

def zero : Binary64 := .finite false 0 minExponent

/-- `numerator / denominator` scaled by `2 ^ (-exponent)`, as a quotient. -/
def scale (numerator denominator : Nat) (exponent : Int) : Nat × Nat :=
  if 0 ≤ exponent then (numerator, denominator * Nat.pow 2 exponent.toNat)
  else (numerator * Nat.pow 2 (-exponent).toNat, denominator)

/-- The nearest natural number to a quotient, a tie going to the even one. -/
def roundQuotient (numerator denominator : Nat) : Nat :=
  let quotient := numerator / denominator
  let twice := 2 * (numerator % denominator)
  if twice > denominator || (twice == denominator && quotient % 2 == 1) then quotient + 1
  else quotient

/-- Packs a rounded significand, which may have reached `2 ^ 53`. -/
def pack (negative : Bool) (significand : Nat) (exponent : Int) : Binary64 :=
  let (significand, exponent) :=
    if significand = Nat.pow 2 53 then (Nat.pow 2 52, exponent + 1) else (significand, exponent)
  if exponent > maxExponent then .infinite negative
  else .finite negative significand exponent

/-- The double nearest to a quotient, a tie going to the even significand. -/
def ofQuotient (negative : Bool) (numerator denominator : Nat) : Binary64 :=
  if numerator = 0 then .finite negative 0 minExponent
  else
    let guess : Int := (numerator.log2 : Int) - (denominator.log2 : Int) - 53
    let (top, bottom) := scale numerator denominator guess
    let exponent := if top / bottom ≥ Nat.pow 2 53 then guess + 1 else guess
    let exponent := if exponent < minExponent then minExponent else exponent
    let (top, bottom) := scale numerator denominator exponent
    pack negative (roundQuotient top bottom) exponent

/-- The nearest double; beyond the largest one it is infinite. -/
def ofInt (n : Int) : Binary64 := ofQuotient (n < 0) n.natAbs 1

/-- The magnitude of a finite number as a quotient. -/
def quotient (significand : Nat) (exponent : Int) : Nat × Nat :=
  if 0 ≤ exponent then (significand * Nat.pow 2 exponent.toNat, 1)
  else (significand, Nat.pow 2 (-exponent).toNat)

def isFinite : Binary64 → Bool
  | .finite .. => true
  | _ => false

def isZero : Binary64 → Bool
  | .finite _ significand _ => significand == 0
  | _ => false

def truncate? : Binary64 → Option Int
  | .finite negative significand exponent =>
      let (top, bottom) := quotient significand exponent
      let whole : Int := (top / bottom : Nat)
      some (if negative then -whole else whole)
  | _ => none

/-- The integer a double equals, if it equals one. -/
def toInt? : Binary64 → Option Int
  | .finite negative significand exponent =>
      let (top, bottom) := quotient significand exponent
      if top % bottom = 0 then
        let whole : Int := (top / bottom : Nat)
        some (if negative then -whole else whole)
      else none
  | _ => none

def compareQuotients (left right : Int × Nat) : Ordering :=
  compare (left.1 * right.2) (right.1 * left.2)

def signedQuotient (negative : Bool) (significand : Nat) (exponent : Int) : Int × Nat :=
  let (top, bottom) := quotient significand exponent
  (if negative then -(top : Int) else top, bottom)

/-- The numeric order; a number that is not a number has none. -/
def compare? : Binary64 → Binary64 → Option Ordering
  | .nan, _ => none
  | _, .nan => none
  | .infinite left, .infinite right =>
      some (if left == right then .eq else if left then .lt else .gt)
  | .infinite left, .finite .. => some (if left then .lt else .gt)
  | .finite .., .infinite right => some (if right then .gt else .lt)
  | .finite n s e, .finite n' s' e' =>
      some (compareQuotients (signedQuotient n s e) (signedQuotient n' s' e'))

/-- The numeric order of a double and an integer, without rounding the integer. -/
def compareInt? : Binary64 → Int → Option Ordering
  | .nan, _ => none
  | .infinite negative, _ => some (if negative then .lt else .gt)
  | .finite n s e, i => some (compareQuotients (signedQuotient n s e) (i, 1))

end Binary64

end RecordGraph
