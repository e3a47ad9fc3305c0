import ConfigStore.Tree.Basic

/-!
# Walks through a tree

A walk visits every node, parents before their children and children in name order.
Flattening and the text form are readings of that walk.

* `Tree.walk` is the list of visits.
* `Tree.flatten` joins the path of every leaf; where two paths join to one key, the later
  visit wins.
* `Tree.render` writes one line per node below the root, indented by depth.
-/

namespace ConfigStore

/-- What a walk meets: a branch with its children or a leaf with its value. -/
inductive Visit where
  | branch (path : List String) (children : List (String × Node))
  | leaf (path : List String) (value : String)
deriving DecidableEq

namespace Visit

def path : Visit → List String
  | branch path _ => path
  | leaf path _ => path

/-- The visit as seen from the parent of the node that the walk started at. -/
def under (name : String) : Visit → Visit
  | branch path children => branch (name :: path) children
  | leaf path value => leaf (name :: path) value

/-- The path and value of a visited leaf. -/
def leaf? : Visit → Option (List String × String)
  | branch _ _ => none
  | leaf path value => some (path, value)

end Visit

namespace Node

mutual

/-- The visits of a walk from a node down. -/
def walk : Node → List Visit
  | .leaf value => [.leaf [] value]
  | .branch children => .branch [] children :: walkAmong children

def walkAmong : List (String × Node) → List Visit
  | [] => []
  | (name, node) :: rest => (walk node).map (·.under name) ++ walkAmong rest

end

/-- The paths and values of the leaves, in the order of the walk. -/
def leaves (node : Node) : List (List String × String) :=
  node.walk.filterMap Visit.leaf?

end Node

namespace Tree

def walk (tree : Tree) : List Visit := tree.root.walk

/-- The values under their joined paths. -/
def flatten (tree : Tree) : NameMap String :=
  NameMap.ofList (tree.root.leaves.map fun leaf => (Path.join tree.separator leaf.1, leaf.2))

/-- The line for a visit: two blanks per level, the name, and the value of a leaf. -/
def line (visit : Visit) : String :=
  match visit.path.getLast? with
  | none => ""
  | some name =>
    let indent := String.ofList (List.replicate (2 * (visit.path.length - 1)) ' ')
    match visit with
    | .branch _ _ => indent ++ name ++ "\n"
    | .leaf _ value => indent ++ name ++ " = " ++ value ++ "\n"

/-- The tree as text. -/
def render (tree : Tree) : String :=
  String.join (tree.walk.map line)

end Tree

end ConfigStore
