import ConfigStore.Tree.Walk

/-!
# Trees read through a scope

A tree that holds its values under full paths, read and written with path texts that a scope
resolves.

* `ScopedTree.assign` and `ScopedTree.get?` set and read one value; `ScopedTree.put` sets it in
  a copy.
* `ScopedTree.subtree` is what lies at and below a path, as seen from the prefix;
  `ScopedTree.flatten` is the same as a map.
-/

namespace ConfigStore

structure ScopedTree where
  scope : Scope := {}
  tree : Tree := Tree.empty

namespace ScopedTree

/-- Set the value at a path in place. -/
def assign (held : ScopedTree) (path value : String) : Change Error ScopedTree :=
  let change := held.tree.assign (held.scope.resolve path) value
  ⟨change.outcome, { held with tree := change.state }⟩

/-- A copy with the value at a path set. -/
def put (held : ScopedTree) (path value : String) : Except Error ScopedTree :=
  (held.tree.insert (held.scope.resolve path) value).map fun tree => { held with tree }

/-- The value at a path; branches have none. -/
def get? (held : ScopedTree) (path : String) : Option String :=
  (held.tree.get? (held.scope.resolve path)).bind Node.value?

/-- What lies at and below a path, rooted at the prefix. -/
def subtree (held : ScopedTree) (path : String) : Tree :=
  (held.tree.subtree (held.scope.resolve path)).rebase held.scope.root held.scope.separator

/-- The values at and below a path under their joined paths. -/
def flatten (held : ScopedTree) (path : String) : NameMap String :=
  (held.subtree path).flatten

theorem scope_put {held changed : ScopedTree} {path value : String}
    (h : held.put path value = .ok changed) : changed.scope = held.scope := by
  rw [put] at h
  cases hTree : held.tree.insert (held.scope.resolve path) value with
  | error e => rw [hTree] at h; cases h
  | ok tree => rw [hTree] at h; cases h; rfl

end ScopedTree

end ConfigStore
