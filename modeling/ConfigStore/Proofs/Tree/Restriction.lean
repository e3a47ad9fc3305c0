import ConfigStore.Proofs.Tree.Insertion
import ConfigStore.Tree.Scoped

/-!
# Parts of a tree

* `Tree.valueAt?_subtree` and `Tree.valueAt?_rebase`: the values of a part, and of a tree seen
  from further down.
* `ScopedTree.valueAt?_subtree`: the values that are read at and below a path.
* `ScopedTree.filled_subtree`: no empty branch is read.
-/

namespace ConfigStore

namespace Tree

variable {tree : Tree} {path other : List String} {value : String}

theorem subtree_nil (tree : Tree) : tree.subtree [] = tree := rfl

theorem root_subtree_of_none (h : tree.get? path = none) : (tree.subtree path).root = .empty := by
  have hPath : path ≠ [] := by
    rintro rfl
    cases h
  rw [subtree, dif_neg hPath]
  split
  · rfl
  next found hFound =>
    rw [h] at hFound
    cases hFound

theorem root_subtree_of_some {node : Node} (h : tree.get? path = some node) :
    (tree.subtree path).root = .chain path node := by
  by_cases hPath : path = []
  · subst hPath
    exact Option.some.inj h
  rw [subtree, dif_neg hPath]
  split
  next hNone =>
    rw [h] at hNone
    cases hNone
  next found hFound =>
    rw [h] at hFound
    cases hFound
    rfl

@[simp] theorem separator_subtree (tree : Tree) (path : List String) :
    (tree.subtree path).separator = tree.separator := by
  rw [subtree]
  split
  · rfl
  · split <;> rfl

/-- A part has the values at and below its path. -/
theorem valueAt?_subtree :
    (tree.subtree path).root.valueAt? other = some value ↔
      path <+: other ∧ tree.root.valueAt? other = some value := by
  cases hGet : tree.get? path with
  | none =>
    rw [root_subtree_of_none hGet]
    constructor
    · intro h
      cases other <;> cases h
    · rintro ⟨⟨rest, rfl⟩, h⟩
      rw [Node.valueAt?_append, ← Tree.get?, hGet] at h
      cases h
  | some node =>
    rw [root_subtree_of_some hGet, Node.valueAt?_chain]
    have hBelow : ∀ rest, tree.root.valueAt? (path ++ rest) = node.valueAt? rest := by
      intro rest
      rw [Node.valueAt?_append, ← Tree.get?, hGet]
      rfl
    constructor
    · rintro ⟨rest, rfl, h⟩
      exact ⟨List.prefix_append path rest, (hBelow rest).trans h⟩
    · rintro ⟨⟨rest, rfl⟩, h⟩
      exact ⟨rest, rfl, (hBelow rest).symm.trans h⟩

theorem filled_subtree (h : tree.root.Filled) (path : List String) :
    (tree.subtree path).root.Filled := by
  by_cases hPath : path = []
  · rwa [hPath, subtree_nil]
  cases hGet : tree.get? path with
  | none =>
    rw [root_subtree_of_none hGet]
    exact Node.filled_empty
  | some node =>
    rw [root_subtree_of_some hGet]
    refine (h.get? hGet).chain ?_ path
    rintro rfl
    exact hPath (h path hGet)

theorem root_rebase_of_some {separator : Char} {children : List (String × Node)}
    (h : tree.get? path = some (.branch children)) :
    (tree.rebase path separator).root = .branch children := by
  rw [rebase]
  split
  next hNone =>
    rw [h] at hNone
    cases hNone
  next found hFound =>
    rw [h] at hFound
    cases hFound
    rfl

theorem root_rebase_of_no_branch {separator : Char}
    (h : ∀ children, tree.get? path ≠ some (.branch children)) :
    (tree.rebase path separator).root = .empty := by
  rw [rebase]
  split
  · rfl
  next found hFound =>
    cases found with
    | leaf old => rfl
    | branch children => exact absurd hFound (h children)

@[simp] theorem separator_rebase (tree : Tree) (path : List String) (separator : Char) :
    (tree.rebase path separator).separator = separator := by
  rw [rebase]
  split
  · rfl
  · split <;> rfl

/-- Seen from further down, a tree has the values below. -/
theorem valueAt?_rebase {separator : Char} :
    (tree.rebase path separator).root.valueAt? other = some value ↔
      other ≠ [] ∧ tree.root.valueAt? (path ++ other) = some value := by
  rw [Node.valueAt?_append, ← Tree.get?]
  by_cases hBranch : ∃ children, tree.get? path = some (.branch children)
  · obtain ⟨children, hGet⟩ := hBranch
    rw [root_rebase_of_some hGet, hGet]
    cases other with
    | nil => simp
    | cons name rest => simp
  · rw [root_rebase_of_no_branch fun children h => hBranch ⟨children, h⟩]
    cases hGet : tree.get? path with
    | none => cases other <;> simp [Node.empty]
    | some node =>
      cases node with
      | leaf old => cases other <;> simp [Node.empty]
      | branch children => exact absurd ⟨children, hGet⟩ hBranch

theorem filled_rebase (h : tree.root.Filled) (path : List String) (separator : Char) :
    (tree.rebase path separator).root.Filled := by
  by_cases hBranch : ∃ children, tree.get? path = some (.branch children)
  · obtain ⟨children, hGet⟩ := hBranch
    rw [root_rebase_of_some hGet]
    exact h.get? hGet
  · rw [root_rebase_of_no_branch fun children h => hBranch ⟨children, h⟩]
    exact Node.filled_empty

end Tree

namespace ScopedTree

variable {held : ScopedTree}

@[simp] theorem separator_subtree (held : ScopedTree) (path : String) :
    (held.subtree path).separator = held.scope.separator :=
  Tree.separator_rebase _ _ _

/-- What is read at and below a path are the values whose paths extend it. -/
theorem valueAt?_subtree {path : String} {other : List String} {value : String} :
    (held.subtree path).root.valueAt? other = some value ↔
      other ≠ [] ∧ held.scope.split path <+: other ∧
        held.tree.root.valueAt? (held.scope.root ++ other) = some value := by
  rw [subtree, Tree.valueAt?_rebase, Tree.valueAt?_subtree, Scope.resolve,
    List.prefix_append_right_inj]

theorem filled_subtree (h : held.tree.root.Filled) (path : String) :
    (held.subtree path).root.Filled :=
  Tree.filled_rebase (Tree.filled_subtree h _) _ _

end ScopedTree

end ConfigStore
