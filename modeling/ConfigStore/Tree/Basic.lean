import ConfigStore.Error
import ConfigStore.Path
import ConfigStore.Tree.Node

/-!
# Trees

A tree is a root branch together with the separator that its path texts use.

* `Tree.assign` sets a value in place, `Tree.insert` gives the tree with the value set, and
  `Tree.get?` reads a node.
* `Tree.subtree` restricts a tree to what lies at and below a path and keeps the paths;
  `Tree.rebase` makes a branch the new root.
-/

namespace ConfigStore

/-- The error shown for an obstacle to putting at `path`. -/
def Node.Obstacle.toError (separator : Char) : Node.Obstacle → Error
  | .emptyPath => .invalidPath "cannot insert a value at an empty path"
  | .leafAt path =>
    .pathConflict (Path.join separator path) "a value exists where a branch is needed"
  | .branchAt path =>
    .pathConflict (Path.join separator path) "a branch exists where a value would be set"

structure Tree where
  separator : Char
  root : Node
  rootIsBranch : root.isBranch = true
  ordered : root.Ordered

namespace Tree

protected theorem ext {a b : Tree} (hSeparator : a.separator = b.separator)
    (hRoot : a.root = b.root) : a = b := by
  cases a; cases b; cases hSeparator; cases hRoot; rfl

instance : DecidableEq Tree := fun a b =>
  decidable_of_iff (a.separator = b.separator ∧ a.root = b.root)
    ⟨fun h => Tree.ext h.1 h.2, by rintro rfl; exact ⟨rfl, rfl⟩⟩

/-- The tree without values. -/
def empty (separator : Char := defaultSeparator) : Tree :=
  ⟨separator, .empty, rfl, Node.ordered_empty⟩

instance : Inhabited Tree := ⟨empty⟩

/-- A tree with the given root, which has to be a branch. -/
def ofRoot (root : Node) (ordered : root.Ordered) (separator : Char) : Except Error Tree :=
  if h : root.isBranch = true then .ok ⟨separator, root, h, ordered⟩
  else .error (.invalidPath "the root of a tree must be a branch")

/-- The number of values. -/
def size (tree : Tree) : Nat := tree.root.leafCount

def get? (tree : Tree) (path : List String) : Option Node :=
  tree.root.get? path

/-- The segments of a path text of this tree. -/
def split (tree : Tree) (text : String) : List String :=
  Path.split tree.separator text

/-- Set the value at a path in place. -/
def assign (tree : Tree) (path : List String) (value : String) : Change Error Tree :=
  let change := tree.root.assign path value
  ⟨change.outcome.mapError (·.toError tree.separator),
    ⟨tree.separator, change.state, (Node.isBranch_assign ..).trans tree.rootIsBranch,
      Node.ordered_assign tree.ordered ..⟩⟩

/-- The tree after setting the value at a path. -/
def insert (tree : Tree) (path : List String) (value : String) : Except Error Tree :=
  (tree.assign path value).committed

/-- Insert the values of a map, in the order of its keys. -/
def ofMap (map : NameMap String) (separator : Char) : Except Error Tree :=
  map.entries.foldlM (fun tree entry => tree.insert (tree.split entry.1) entry.2)
    (empty separator)

theorem isBranch_chain {node : Node} {path : List String} (h : path ≠ []) :
    (Node.chain path node).isBranch = true := by
  cases path with
  | nil => exact absurd rfl h
  | cons name rest => rfl

/-- The part of a tree at and below a path, under the same paths. -/
def subtree (tree : Tree) (path : List String) : Tree :=
  if hPath : path = [] then tree
  else
    match h : tree.get? path with
    | none => empty tree.separator
    | some node =>
      ⟨tree.separator, Node.chain path node, isBranch_chain hPath,
        Node.ordered_chain (Node.ordered_of_get? tree.ordered h) path⟩

/-- The branch at `path` as a tree of its own; empty where there is no branch. -/
def rebase (tree : Tree) (path : List String) (separator : Char) : Tree :=
  match h : tree.get? path with
  | none => empty separator
  | some node =>
    if hBranch : node.isBranch = true then
      ⟨separator, node, hBranch, Node.ordered_of_get? tree.ordered h⟩
    else empty separator

end Tree

end ConfigStore
