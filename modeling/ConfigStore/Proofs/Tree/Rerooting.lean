import ConfigStore.Proofs.Tree.Restriction

/-!
# Restricting and re-rooting trees

The two operations by which a part of a tree is read, seen from the paths. Nothing is asked of the
tree: branches may be empty, and names may occur more than once on a path.

* `Tree.get?_subtree_append`, `Tree.get?_subtree_above`, `Tree.get?_subtree_of_apart`: where the
  paths of a part lead that go on from its path, that its path goes on from, and all others.
* `Tree.get?_rebase`: where the paths of a re-rooted tree lead.
* `Tree.rebase_subtree`: the part that is cut out below a branch is the part of what is below it.
* `Tree.subtree_rebase_exact` puts these together with what becomes of paths that lead nowhere.
-/

namespace ConfigStore.Tree

variable {tree : Tree} {path other : List String} {node : Node} {separator : Char}

/-! ## Parts -/

theorem subtree_of_none (h : tree.get? path = none) :
    tree.subtree path = empty tree.separator :=
  Tree.ext (separator_subtree tree path) (root_subtree_of_none h)

/-- At and below its path, a part is as the tree. -/
theorem get?_subtree_append (h : tree.get? path = some node) (rest : List String) :
    (tree.subtree path).get? (path ++ rest) = tree.get? (path ++ rest) := by
  have hTree : tree.get? (path ++ rest) = node.get? rest := by
    rw [get?, Node.get?_append, ← get?, h]
    rfl
  rw [hTree, get?, root_subtree_of_some h]
  exact Node.get?_chain_append path rest node

/-- Above its path, a part has nothing but the names on the way to it. -/
theorem get?_subtree_above {above rest : List String} {name : String}
    (h : tree.get? (above ++ name :: rest) = some node) :
    (tree.subtree (above ++ name :: rest)).get? above =
      some (.branch [(name, .chain rest node)]) := by
  have hEnd := Node.get?_chain_append above [] (.chain (name :: rest) node)
  rw [List.append_nil] at hEnd
  rw [get?, root_subtree_of_some h, Node.chain_append, hEnd]
  rfl

theorem get?_subtree_of_apart (h : tree.get? path = some node) (hBelow : ¬ path <+: other)
    (hAbove : ¬ other <+: path) : (tree.subtree path).get? other = none := by
  rw [get?, root_subtree_of_some h]
  exact Node.get?_chain_of_apart hAbove hBelow node

/-! ## Re-rooted trees -/

theorem get?_rebase {children : List (String × Node)}
    (h : tree.get? path = some (.branch children)) (rest : List String) :
    (tree.rebase path separator).get? rest = tree.get? (path ++ rest) := by
  rw [get?, root_rebase_of_some h, get?, Node.get?_append, ← get?, h]
  rfl

theorem rebase_of_no_branch (h : ∀ children, tree.get? path ≠ some (.branch children)) :
    tree.rebase path separator = empty separator :=
  Tree.ext (separator_rebase tree path separator) (root_rebase_of_no_branch h)

theorem rebase_empty (first : Char) (path : List String) (separator : Char) :
    (empty first).rebase path separator = empty separator := by
  cases path with
  | nil => exact Tree.ext rfl (root_rebase_of_some rfl)
  | cons name rest =>
    apply rebase_of_no_branch
    intro children h
    cases h

/-- To cut out a part below a branch and to make the branch the root goes in either order. -/
theorem rebase_subtree {children : List (String × Node)}
    (h : tree.get? path = some (.branch children)) (rest : List String) (separator : Char) :
    (tree.subtree (path ++ rest)).rebase path separator =
      (tree.rebase path separator).subtree rest := by
  have hRest : (tree.rebase path separator).get? rest = tree.get? (path ++ rest) :=
    get?_rebase h rest
  cases hPart : tree.get? (path ++ rest) with
  | none =>
    rw [hPart] at hRest
    rw [subtree_of_none hPart, rebase_empty, subtree_of_none hRest, separator_rebase]
  | some part =>
    rw [hPart] at hRest
    apply Tree.ext
    · rw [separator_rebase, separator_subtree, separator_rebase]
    · rw [root_subtree_of_some hRest]
      cases rest with
      | nil =>
        have hSame : part = .branch children := by
          rw [List.append_nil, h] at hPart
          exact (Option.some.inj hPart).symm
        have hTop := get?_subtree_append h []
        rw [List.append_nil, h] at hTop
        rw [List.append_nil, root_rebase_of_some hTop, hSame]
        rfl
      | cons name rest => exact root_rebase_of_some (get?_subtree_above hPart)

/-! ## Both -/

/-- The part of a tree at a path is the tree at and below the path. Above the path it consists of
branches with the next name of the path as their only child, and it leads nowhere else. A tree
re-rooted at a branch leads where the tree leads from there. Where there is nothing to restrict to,
or no branch to become the root, no values are left. A part below a branch can be cut out before or
after the branch becomes the root. -/
theorem subtree_rebase_exact (tree : Tree) (path : List String) (separator : Char) :
    (tree.subtree path).separator = tree.separator ∧
    (tree.get? path ≠ none →
      (∀ other, path <+: other → (tree.subtree path).get? other = tree.get? other) ∧
      (∀ above name rest, path = above ++ name :: rest →
        ∃ child, (tree.subtree path).get? above = some (.branch [(name, child)])) ∧
      ∀ other, ¬ path <+: other → ¬ other <+: path → (tree.subtree path).get? other = none) ∧
    (tree.get? path = none → tree.subtree path = empty tree.separator) ∧
    (tree.rebase path separator).separator = separator ∧
    (∀ children, tree.get? path = some (.branch children) →
      (∀ other, (tree.rebase path separator).get? other = tree.get? (path ++ other)) ∧
      ∀ rest, (tree.subtree (path ++ rest)).rebase path separator =
        (tree.rebase path separator).subtree rest) ∧
    ((∀ children, tree.get? path ≠ some (.branch children)) →
      tree.rebase path separator = empty separator) := by
  refine ⟨separator_subtree tree path, fun hSome => ?_, subtree_of_none,
    separator_rebase tree path separator, ?_, rebase_of_no_branch⟩
  · obtain ⟨node, hNode⟩ := Option.ne_none_iff_exists'.mp hSome
    refine ⟨?_, ?_, fun other => get?_subtree_of_apart hNode⟩
    · rintro other ⟨rest, rfl⟩
      exact get?_subtree_append hNode rest
    · rintro above name rest rfl
      exact ⟨_, get?_subtree_above hNode⟩
  · intro children hBranch
    exact ⟨get?_rebase hBranch, fun rest => rebase_subtree hBranch rest separator⟩

/-- A tree in which a name occurs below itself, beside an empty branch. -/
def repeated : Tree where
  separator := '/'
  root := .branch [("a", .branch [("a", .leaf "1"), ("b", .empty)])]
  rootIsBranch := rfl
  ordered := by
    refine .branch (by decide) ?_
    intro child hChild
    rw [List.mem_singleton] at hChild
    subst hChild
    exact .branch (by decide) (by simp [Node.Ordered.leaf, Node.ordered_empty])

/-- The part at `a`, `b` keeps the empty branch and leaves its sibling out. -/
theorem subtree_rebase_exact_repeated :
    repeated.get? ["a", "b"] ≠ none ∧
      (repeated.subtree ["a", "b"]).get? ["a", "b"] = some .empty ∧
      (∃ child, (repeated.subtree ["a", "b"]).get? ["a"] = some (.branch [("b", child)])) ∧
      repeated.get? ["a"] = some (.branch [("a", .leaf "1"), ("b", .empty)]) ∧
      (repeated.subtree ["a", "b"]).rebase ["a"] '.' =
        (repeated.rebase ["a"] '.').subtree ["b"] := by
  have hSome : repeated.get? ["a", "b"] ≠ none := nofun
  have hBranch : repeated.get? ["a"] = some (.branch [("a", .leaf "1"), ("b", .empty)]) := rfl
  obtain ⟨-, hPart, -⟩ := subtree_rebase_exact repeated ["a", "b"] '.'
  obtain ⟨hBelow, hAbove, -⟩ := hPart hSome
  obtain ⟨-, -, -, -, hRooted, -⟩ := subtree_rebase_exact repeated ["a"] '.'
  exact ⟨hSome, hBelow _ (List.prefix_refl _), hAbove ["a"] "b" [] rfl, hBranch,
    (hRooted _ hBranch).2 ["b"]⟩

end ConfigStore.Tree
