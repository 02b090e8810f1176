import RecordGraph.Expression.Token
import RecordGraph.Expression.Tree

/-!
Contract: reading of relation expressions.

Owns: the pushdown reader of tokens and `RelationTree.parse`.
Does not own: tokens and trees.

    expression := [ items ]
    items      := item ("," item)*
    item       := "[" items "]" | NAME [ "." item ]

An expression denotes a list of paths: a list of items those of its items in turn, a group those of
its items, a name its own path, and `NAME.item` the path of the name and every path of the item
below it. Its tree is the tree of these paths.
-/

namespace RecordGraph

open RecordGraph.Text

/-- What is read next. Every state carries the paths under which the open groups stand, innermost
first. -/
inductive ParseState where
  /-- An item below a path. -/
  | item (path : List String) (groups : List (List String))
  /-- The first item of a group below a path. -/
  | first (path : List String) (groups : List (List String))
  /-- What follows a name, whose path is given. -/
  | named (path : List String) (groups : List (List String))
  /-- What follows a group. -/
  | grouped (groups : List (List String))
deriving DecidableEq, Repr, Inhabited

/-- Where and why reading stopped; no position stands for the end of the expression. -/
structure ParseFailure where
  position : Option Nat
  reason : String
deriving DecidableEq, Repr, Inhabited

/-- The state after a token that begins an item, and the path that the token denotes. -/
def beginItem (path : List String) (groups : List (List String)) (token : Token) :
    Except ParseFailure (ParseState × List (List String)) :=
  match token.kind with
  | .name name => .ok (.named (path ++ [name]) groups, [path ++ [name]])
  | .opening => .ok (.first path (path :: groups), [])
  | _ => .error ⟨some token.position, "expected a relation name"⟩

/-- The state after a token that follows a complete item. -/
def followItem (groups : List (List String)) (token : Token) :
    Except ParseFailure (ParseState × List (List String)) :=
  match token.kind, groups with
  | .comma, [] => .ok (.item [] [], [])
  | .comma, path :: outer => .ok (.item path (path :: outer), [])
  | .closing, _ :: outer => .ok (.grouped outer, [])
  | kind, [] => .error ⟨some token.position, "unexpected " ++ quote kind.text⟩
  | _, _ :: _ => .error ⟨some token.position, "unbalanced '[' (expected ']')"⟩

/-- One token. -/
def ParseState.step (state : ParseState) (token : Token) :
    Except ParseFailure (ParseState × List (List String)) :=
  match state with
  | .item path groups => beginItem path groups token
  | .first path groups =>
      if token.kind = .closing then .error ⟨some token.position, "empty relation group"⟩
      else beginItem path groups token
  | .named path groups =>
      if token.kind = .point then .ok (.item path groups, [])
      else followItem groups token
  | .grouped groups => followItem groups token

/-- What an expression lacks that ends in a state, if it lacks anything. -/
def ParseState.lack? : ParseState → Option String
  | .item .. | .first .. => some "expected a relation name"
  | .named _ [] | .grouped [] => none
  | .named _ (_ :: _) | .grouped (_ :: _) => some "unbalanced '[' (expected ']')"

def parseTokens (state : ParseState) : List Token → Except ParseFailure (List (List String))
  | [] =>
      match state.lack? with
      | none => .ok []
      | some reason => .error ⟨none, reason⟩
  | token :: rest =>
      match state.step token with
      | .error failure => .error failure
      | .ok (next, denoted) => (parseTokens next rest).map (denoted ++ ·)

def ParseFailure.toError (failure : ParseFailure) (expression : String) (length : Nat) : Error :=
  match failure.position with
  | some position => .syntaxError expression position failure.reason
  | none => .syntaxError expression length (failure.reason ++ ", reached end of expression")

/-- The paths that tokens denote. No tokens denote no paths. -/
def Lexed.paths (lexed : Lexed) : Except ParseFailure (List (List String)) :=
  match lexed.tokens with
  | [] => .ok []
  | tokens => parseTokens (.item [] []) tokens

namespace RelationTree

variable {F : Type}

def parse (expression : String) : Result (RelationTree F) := do
  let lexed ← Lexed.read expression
  match lexed.paths with
  | .ok paths => pure (ofPaths paths)
  | .error failure => throw (failure.toError expression lexed.length)

def display (tree : RelationTree F) : String :=
  "RelationTree(" ++ quote tree.render ++ ")"

end RelationTree

end RecordGraph
