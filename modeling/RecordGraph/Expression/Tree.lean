import RecordGraph.Text.Split

/-!
Contract: trees of relation names, with optional filters on their nodes.

Owns: `RelationTree`, growth by paths, lookup by path, the breadth-first order, copies, and the
expression that denotes a tree.
Does not own: reading of expressions, and what a filter is.

Paths are dotted names from the root. A tree is written as first child and next sibling: `cons`
holds one node, the tree of its children, and its later siblings.
-/

namespace RecordGraph

inductive RelationTree (F : Type) where
  | nil
  | cons (name : String) (filter : Option F) (children siblings : RelationTree F)
deriving Repr, DecidableEq, Inhabited

/-- The path of a name below a path. The root's path is empty. -/
def extendPath (path name : String) : String :=
  if path.isEmpty then name else path ++ "." ++ name

namespace RelationTree

variable {F : Type}

/-- A node of a tree, with its path. -/
structure Node (F : Type) where
  name : String
  path : String
  filter : Option F
  children : RelationTree F
deriving Repr, DecidableEq, Inhabited

def isEmpty : RelationTree F → Bool
  | .nil => true
  | .cons .. => false

def names : RelationTree F → List String
  | .nil => []
  | .cons name _ _ siblings => name :: siblings.names

def nodes (path : String) : RelationTree F → List (Node F)
  | .nil => []
  | .cons name filter children siblings =>
      ⟨name, extendPath path name, filter, children⟩ :: siblings.nodes path

/-- The filter and the children of the first top-level node with a name. -/
def child? (name : String) : RelationTree F → Option (Option F × RelationTree F)
  | .nil => none
  | .cons name' filter children siblings =>
      if name' = name then some (filter, children) else siblings.child? name

/-! ## Growth -/

def chain : List String → RelationTree F
  | [] => .nil
  | name :: rest => .cons name none (chain rest) .nil

/-- Makes sure that a path of names exists. New nodes come after their elder siblings. -/
def insert : RelationTree F → List String → RelationTree F
  | tree, [] => tree
  | .nil, name :: rest => chain (name :: rest)
  | .cons name' filter children siblings, name :: rest =>
      if name' = name then .cons name' filter (children.insert rest) siblings
      else .cons name' filter children (siblings.insert (name :: rest))

/-- The tree of paths, in order of first occurrence. -/
def ofPaths (paths : List (List String)) : RelationTree F :=
  paths.foldl insert .nil

/-! ## Lookup -/

/-- The node at a nonempty path of names below a given path. -/
def findNames (path : String) : RelationTree F → List String → Option (Node F)
  | _, [] => none
  | .nil, _ :: _ => none
  | .cons name' filter children siblings, name :: rest =>
      if name' = name then
        match rest with
        | [] => some ⟨name', extendPath path name', filter, children⟩
        | _ :: _ => children.findNames (extendPath path name') rest
      else siblings.findNames path (name :: rest)

def splitPath (path : String) : List String :=
  (Text.splitMarks '.' path.toList).map String.ofList

def find? (tree : RelationTree F) (path : String) : Option (Node F) :=
  tree.findNames "" (splitPath path)

/-! ## Breadth-first order -/

def height : RelationTree F → Nat
  | .nil => 0
  | .cons _ _ children siblings => max (children.height + 1) siblings.height

def walkLevels : (levels : Nat) → List (Node F) → List (Node F)
  | 0, _ => []
  | levels + 1, nodes =>
      nodes ++ walkLevels levels (nodes.flatMap fun node => node.children.nodes node.path)

/-- Every node, by depth, then by the order of parents, then by the order among siblings. -/
def walk (tree : RelationTree F) : List (Node F) :=
  walkLevels tree.height (tree.nodes "")

def paths (tree : RelationTree F) : List String :=
  tree.walk.map (·.path)

/-! ## Filters -/

/-- Sets or clears the filter of the node at a path of names, if there is one. -/
def setFilterNames (filter : Option F) : RelationTree F → List String → RelationTree F
  | tree, [] => tree
  | .nil, _ :: _ => .nil
  | .cons name' filter' children siblings, name :: rest =>
      if name' = name then
        match rest with
        | [] => .cons name' filter children siblings
        | _ :: _ => .cons name' filter' (children.setFilterNames filter rest) siblings
      else .cons name' filter' children (siblings.setFilterNames filter (name :: rest))

/-- Attaches filters by path, in order, and gives the paths that no node has. An absent filter
clears the one before it. -/
def attachFilters (tree : RelationTree F) :
    List (String × Option F) → RelationTree F × List String
  | [] => (tree, [])
  | (path, filter) :: rest =>
      match tree.find? path with
      | none =>
          let (tree, unmatched) := tree.attachFilters rest
          (tree, path :: unmatched)
      | some _ => (tree.setFilterNames filter (splitPath path)).attachFilters rest

/-! ## Copies -/

/-- Gives the child of a name a filter, and what is made of its children for children. Without such a
child, one is added after its elder siblings. -/
def setChild (name : String) (filter : Option F) (change : RelationTree F → RelationTree F) :
    RelationTree F → RelationTree F
  | .nil => .cons name filter (change .nil) .nil
  | .cons name' filter' children siblings =>
      if name' = name then .cons name' filter (change children) siblings
      else .cons name' filter' children (siblings.setChild name filter change)

/-- Copies the nodes of a tree, with their filters, to those of another one. -/
def copyInto : (source target : RelationTree F) → RelationTree F
  | .nil, target => target
  | .cons name filter children siblings, target =>
      siblings.copyInto (target.setChild name filter fun below => children.copyInto below)

def copy (tree : RelationTree F) : RelationTree F :=
  tree.copyInto .nil

/-! ## Rendering -/

/-- The expressions of a group: a single one stands for itself. -/
def bracket : List String → String
  | [only] => only
  | parts => "[" ++ ", ".intercalate parts ++ "]"

/-- The expression of a node whose children have the given expressions. -/
def renderNode (name : String) : (parts : List String) → String
  | [] => name
  | parts => if name.isEmpty then bracket parts else name ++ "." ++ bracket parts

/-- The expressions of the top-level nodes. -/
def renderParts : RelationTree F → List String
  | .nil => []
  | .cons name _ children siblings =>
      renderNode name children.renderParts :: siblings.renderParts

def render (tree : RelationTree F) : String :=
  renderNode "" tree.renderParts

def Node.render (node : Node F) : String :=
  renderNode node.name node.children.renderParts

end RelationTree

end RecordGraph
