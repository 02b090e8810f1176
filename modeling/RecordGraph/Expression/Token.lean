import RecordGraph.Error

/-!
Contract: the tokens of relation expressions.

Owns: `Token`, `Lexed` and `Lexed.read`.
Does not own: the grammar; `RecordGraph.Expression.Parse` has it.

Blanks separate tokens and mean nothing else. A name is taken as long as possible.
-/

namespace RecordGraph

open RecordGraph.Text

inductive TokenKind where
  | name (chars : String)
  | point
  | comma
  | opening
  | closing
deriving DecidableEq, Repr, Inhabited

namespace TokenKind

def text : TokenKind → String
  | .name chars => chars
  | .point => "."
  | .comma => ","
  | .opening => "["
  | .closing => "]"

def ofPunctuation? (c : Char) : Option TokenKind :=
  if c == '.' then some .point
  else if c == ',' then some .comma
  else if c == '[' then some .opening
  else if c == ']' then some .closing
  else none

end TokenKind

/-- A token and the place of its first character, counted in characters. -/
structure Token where
  kind : TokenKind
  position : Nat
deriving DecidableEq, Repr, Inhabited

def isNameStart (c : Char) : Bool :=
  c.isAlpha || c == '_' || c == '$'

def isNamePart (c : Char) : Bool :=
  isWord c || c == '$'

/-- The tokens of the characters from a position on, or the place and character that start no
token. -/
def lexFrom (position : Nat) (chars : List Char) : Except (Nat × Char) (List Token) :=
  match chars with
  | [] => .ok []
  | c :: rest =>
      if isBlank c then lexFrom (position + 1) rest
      else if isNameStart c then
        let tail := rest.takeWhile isNamePart
        (lexFrom (position + 1 + tail.length) (rest.dropWhile isNamePart)).map
          (⟨.name (String.ofList (c :: tail)), position⟩ :: ·)
      else
        match TokenKind.ofPunctuation? c with
        | some kind => (lexFrom (position + 1) rest).map (⟨kind, position⟩ :: ·)
        | none => .error (position, c)
termination_by chars.length
decreasing_by
  · simp
  · have shorter := (List.dropWhile_sublist isNamePart (l := rest)).length_le
    simp only [List.length_cons]
    omega
  · simp

/-- The tokens of an expression. The expression ends at position `length`. -/
structure Lexed where
  tokens : List Token
  length : Nat
deriving DecidableEq, Repr, Inhabited

def Lexed.read (expression : String) : Result Lexed :=
  let chars := expression.toList
  match lexFrom 0 chars with
  | .ok tokens => .ok ⟨tokens, chars.length⟩
  | .error (position, c) =>
      .error (.syntaxError expression position
        ("unexpected character " ++ quote (String.singleton c)))

end RecordGraph
