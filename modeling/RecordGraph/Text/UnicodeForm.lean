import RecordGraph.Text.Surrogate

/-!
Contract: the Unicode form of a document's bytes.

Owns: `UnicodeForm`, the guess of a form from the first bytes, and decoding.
Does not own: the document's grammar.

A document begins with a character of ASCII, so the zeros among its first bytes tell the width and
the order of its units.
-/

namespace RecordGraph.Text

inductive UnicodeForm where
  | bytes
  | pairs (bigEndian : Bool)
  | quadruples (bigEndian : Bool)
deriving DecidableEq, Repr, Inhabited

namespace UnicodeForm

/-- The form that the first bytes show. -/
def guess : List Nat → UnicodeForm
  | first :: second :: third :: fourth :: _ =>
      if first = 0 then if second = 0 then .quadruples true else .pairs true
      else if second = 0 then
        if third = 0 && fourth = 0 then .quadruples false else .pairs false
      else .bytes
  | [first, second] =>
      if first = 0 then .pairs true else if second = 0 then .pairs false else .bytes
  | _ => .bytes

def pairCodes (bigEndian : Bool) : List Nat → Option (List Nat)
  | [] => some []
  | [_] => none
  | first :: second :: rest => do
      let code := if bigEndian then first * 256 + second else second * 256 + first
      some (code :: (← pairCodes bigEndian rest))

def quadrupleCodes (bigEndian : Bool) : List Nat → Option (List Nat)
  | first :: second :: third :: fourth :: rest => do
      let code :=
        if bigEndian then ((first * 256 + second) * 256 + third) * 256 + fourth
        else ((fourth * 256 + third) * 256 + second) * 256 + first
      some (code :: (← quadrupleCodes bigEndian rest))
  | [] => some []
  | _ => none

def ofCodePoints (codes : List Nat) : Option (List Char) :=
  if codes.all (· < 0x110000) then some (codes.map ofCode) else none

end UnicodeForm

def dropOrderMark : List Char → List Char
  | c :: rest => if c.toNat = 0xFEFF then rest else c :: rest
  | [] => []

/-- The text that the bytes of a text stand for in the form that they show, if they have it. -/
def reread (text : String) : Option String :=
  let bytes := text.toUTF8.data.toList.map (·.toNat)
  match UnicodeForm.guess bytes with
  | .bytes => some (String.ofList (dropOrderMark text.toList))
  | .pairs bigEndian =>
      (UnicodeForm.pairCodes bigEndian bytes).map fun units => String.ofList (ofUnits units)
  | .quadruples bigEndian => do
      let codes ← UnicodeForm.quadrupleCodes bigEndian bytes
      (UnicodeForm.ofCodePoints codes).map String.ofList

end RecordGraph.Text
