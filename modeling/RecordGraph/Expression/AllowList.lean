import RecordGraph.Expression.Parse

/-!
Contract: restriction of relation paths.

Owns: `AllowList` and its two checks, of one path and of a whole tree; the forms in which callers
give expressions and allow-lists.
Does not own: whether a path exists in a schema.

A path is allowed if it is a path of the tree of allowed paths.
-/

namespace RecordGraph

inductive AllowList (F : Type) where
  | unrestricted
  | within (tree : RelationTree F)
deriving Repr, DecidableEq, Inhabited

namespace AllowList

open RecordGraph.Text

variable {F : Type}

def isUnrestricted : AllowList F → Bool
  | .unrestricted => true
  | .within _ => false

def allows : AllowList F → String → Bool
  | .unrestricted, _ => true
  | .within tree, path => (tree.find? path).isSome

def checkPath (allow : AllowList F) (path : String) : Result Unit :=
  if allow.allows path then pure () else throw (.notAllowed path)

/-- The first requested path, parents before children, that the allowed tree lacks. -/
def firstOutside (path : String) : RelationTree F → RelationTree F → Option String
  | .nil, _ => none
  | .cons name _ children siblings, allowed =>
      match allowed.child? name with
      | none => some (extendPath path name)
      | some (_, below) =>
          match firstOutside (extendPath path name) children below with
          | some outside => some outside
          | none => firstOutside path siblings allowed

/-- Refuses a requested tree at its first path that is not allowed. -/
def check : AllowList F → RelationTree F → Result Unit
  | .unrestricted, _ => pure ()
  | .within tree, requested =>
      match firstOutside "" requested tree with
      | some path => throw (.notAllowed path)
      | none => pure ()

def display : AllowList F → String
  | .unrestricted => "AllowList(None)"
  | .within tree => "AllowList(" ++ quote tree.render ++ ")"

end AllowList

/-- An expression as a caller gives it: absent, as text, or read beforehand. -/
inductive ExpressionSource (F : Type) where
  | absent
  | text (expression : String)
  | tree (tree : RelationTree F)
deriving Repr, DecidableEq, Inhabited

def ExpressionSource.read {F : Type} : ExpressionSource F → Result (RelationTree F)
  | .absent => pure .nil
  | .text chars => RelationTree.parse chars
  | .tree ready => pure ready

/-- An allow-list as a caller gives it. -/
inductive AllowSource (F : Type) where
  | expression (source : ExpressionSource F)
  | list (allow : AllowList F)
deriving Repr, DecidableEq, Inhabited

/-- Only an absent expression restricts nothing. -/
def AllowSource.read {F : Type} : AllowSource F → Result (AllowList F)
  | .expression .absent => pure .unrestricted
  | .expression source => do pure (.within (← source.read))
  | .list allow => pure allow

end RecordGraph
