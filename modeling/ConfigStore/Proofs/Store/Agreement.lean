import ConfigStore.Proofs.Json.Collecting
import ConfigStore.Proofs.Store.Session
import ConfigStore.Proofs.Tree.Flattening
import ConfigStore.Proofs.Tree.Restriction

/-!
# Reading one value and reading all

A store in memory or in a file can be read value by value and as a whole.

* `Store.textAt?` is the text at the end of a list of names. `Store.get` reads it, and so does
  every leaf of `Store.subtree`.
* `Session.flatten_agrees`: each entry of `Store.flatten` is read back under its key and no value
  is lost, where the names of the tree are clean for the separator in force.

Names that came from a file or were put under another separator need not be clean. They make keys
that lead elsewhere, and two values can have the same key.
-/

namespace ConfigStore

theorem ScopedTree.valueAt?_of_mem_leaves {held : ScopedTree} {path : String}
    {leaf : List String × String} (h : leaf ∈ (held.subtree path).root.leaves) :
    held.scope.split path <+: leaf.1 ∧
      held.tree.root.valueAt? (held.scope.root ++ leaf.1) = some leaf.2 :=
  (ScopedTree.valueAt?_subtree.mp ((Node.mem_leaves_iff (Tree.ordered _)).mp h)).2

namespace Store

open scoped Decimal

/-- Stores as they are opened: in memory with any tree, or with what a file holds. The text of a
document has no more characters than positions can count. -/
inductive Opened (world : World) : Store → Prop
  | memory (held : ScopedTree) : Opened world (.memory held)
  | ini {file : String} {store : IniFile} (h : IniFile.load world.disk file = .ok store) :
    Opened world (.ini store)
  | json {file : String} {store : JsonFile} (h : JsonFile.load world.disk file = .ok store)
    (hText : ∀ text, world.disk.read file = .ok text → text.length ≤ 2 ^ (64 : Nat)) :
    Opened world (.json store)

/-- What all operations keep of stores in memory and in files. -/
def Local : Store → Prop
  | memory _ => True
  | ini _ => True
  | json store => store.document.Sound (2 ^ (64 : Nat))
  | consul _ => False

variable {store : Store} {world : World}

theorem Opened.isLocal (h : store.Opened world) : store.Local := by
  cases h with
  | memory held => trivial
  | ini h => trivial
  | json h hText => exact JsonFile.sound_of_load hText h

theorem Local.withScope (h : store.Local) (scope : Scope) : (store.withScope scope).Local := by
  cases store <;> exact h

theorem Local.put {path value : String} {next : Store × World} (h : store.Local)
    (hPut : store.put world path value = .ok next) : next.1.Local := by
  cases store with
  | memory held =>
    rw [put_memory] at hPut
    obtain ⟨changed, -, rfl⟩ := Except.map_eq_ok_iff.mp hPut
    trivial
  | ini store =>
    rw [put_ini] at hPut
    obtain ⟨changed, -, rfl⟩ := Except.map_eq_ok_iff.mp hPut
    trivial
  | json store =>
    rw [put_json] at hPut
    obtain ⟨changed, hChanged, rfl⟩ := Except.map_eq_ok_iff.mp hPut
    exact JsonFile.sound_put (Nat.le_refl _) h hChanged
  | consul client => exact h.elim

/-- The text at the end of a list of names, counted from the top of the store. -/
def textAt? : Store → List String → Option String
  | memory held, path => held.tree.root.valueAt? path
  | ini store, path => store.held.tree.root.valueAt? path
  | json store, path => Json.textAt? path store.document
  | consul _, _ => none

theorem Local.get_eq (h : store.Local) (path : String) :
    store.get world path = .ok (store.textAt? (store.scope.resolve path)) := by
  cases store with
  | memory held => rfl
  | ini store => rfl
  | json store => rfl
  | consul client => exact h.elim

/-- At every path there is a tree, whose leaves are texts of the store below that path. -/
theorem Local.exists_subtree (h : store.Local) (world : World) (path : String) :
    ∃ tree, store.subtree world path = .ok tree ∧ tree.separator = store.scope.separator ∧
      store.flatten world path = .ok tree.flatten ∧
      ∀ leaf ∈ tree.root.leaves, store.scope.split path <+: leaf.1 ∧
        store.textAt? (store.scope.root ++ leaf.1) = some leaf.2 := by
  cases store with
  | memory held =>
    exact ⟨held.subtree path, rfl, held.separator_subtree path, rfl,
      fun _ hLeaf => ScopedTree.valueAt?_of_mem_leaves hLeaf⟩
  | ini store =>
    exact ⟨store.held.subtree path, rfl, store.held.separator_subtree path, rfl,
      fun _ hLeaf => ScopedTree.valueAt?_of_mem_leaves hLeaf⟩
  | json store =>
    obtain ⟨tree, hTree, hSeparator, hLeaves⟩ :=
      JsonFile.exists_subtree (Nat.le_refl _) h path
    refine ⟨tree, hTree, hSeparator, ?_, ?_⟩
    · rw [flatten, hTree, Except.ok_map]
    · intro leaf hLeaf
      obtain ⟨rest, hRest, hText⟩ := hLeaves leaf hLeaf
      exact ⟨⟨rest, hRest.symm⟩, hText⟩
  | consul client => exact h.elim

/-- The key of a leaf with clean names leads back to its value. -/
theorem Local.get_key (h : store.Local) {leaf : List String × String}
    (hText : store.textAt? (store.scope.root ++ leaf.1) = some leaf.2)
    (hClean : Path.Clean store.scope.separator leaf.1) :
    store.get world (Path.join store.scope.separator leaf.1) = .ok (some leaf.2) := by
  rw [h.get_eq, Scope.resolve, Scope.split, Path.split_join hClean, hText]

end Store

namespace Session

theorem local_perform {session : Session} (h : session.store.Local) (operation : Operation) :
    (session.perform operation).2.store.Local := by
  rcases perform_cases session operation with hSame | ⟨written, value, next, -, hPut, hNext⟩
  · rw [hSame]
    exact h.withScope _
  · rw [hNext]
    exact h.put hPut

theorem local_run {session : Session} (h : session.store.Local) (operations : List Operation) :
    (session.run operations).2.store.Local :=
  run_induction (motive := fun session => session.store.Local)
    (fun _ operation h => local_perform h operation) h operations

/-- After every run and at every path, the entries of the map are the leaves of the tree under
their keys. A key leads back to its leaf if and only if the names of the leaf are clean for the
separator in force, and then the value is read back under it. The map has as many entries as the
tree has leaves if and only if no two leaves have the same key, as is the case where all names are
clean. -/
theorem flatten_agrees {session : Session} (hOpened : session.store.Opened session.world)
    (operations : List Operation) (path : String) :
    let after := (session.run operations).2
    let separator := after.store.scope.separator
    ∃ tree map, after.store.subtree after.world path = .ok tree ∧
      after.store.flatten after.world path = .ok map ∧
      (∀ key value, map.get? key = some value → ∃ leaf ∈ tree.root.leaves,
        Path.join separator leaf.1 = key ∧ leaf.2 = value ∧
        (after.store.scope.split key = leaf.1 ↔ Path.Clean separator leaf.1) ∧
        (Path.Clean separator leaf.1 →
          after.store.get after.world key = .ok (some value))) ∧
      (map.size = tree.size ↔ ∀ leaf ∈ tree.root.leaves, ∀ other ∈ tree.root.leaves,
        Path.join separator leaf.1 = Path.join separator other.1 → leaf = other) ∧
      ((∀ leaf ∈ tree.root.leaves, Path.Clean separator leaf.1) →
        map.size = tree.size ∧ ∀ key value, map.get? key = some value →
          after.store.get after.world key = .ok (some value)) := by
  intro after separator
  have hLocal : after.store.Local := local_run hOpened.isLocal operations
  obtain ⟨tree, hTree, hSeparator, hFlatten, hLeaves⟩ :=
    hLocal.exists_subtree after.world path
  have hEntry : ∀ key value, tree.flatten.get? key = some value →
      ∃ leaf ∈ tree.root.leaves, Path.join separator leaf.1 = key ∧ leaf.2 = value := by
    intro key value hValue
    obtain ⟨leaf, hLeaf, hKey, hEq⟩ := Tree.exists_leaf_of_get?_flatten hValue
    rw [hSeparator] at hKey
    exact ⟨leaf, hLeaf, hKey, hEq⟩
  refine ⟨tree, tree.flatten, hTree, hFlatten, ?_, ?_, ?_⟩
  · intro key value hValue
    obtain ⟨leaf, hLeaf, rfl, rfl⟩ := hEntry key value hValue
    exact ⟨leaf, hLeaf, rfl, rfl, Path.split_join_iff, hLocal.get_key (hLeaves leaf hLeaf).2⟩
  · rw [Tree.size_flatten_eq_iff, hSeparator]
  · intro hClean
    refine ⟨Tree.size_flatten_eq_iff.mpr fun leaf hLeaf other hOther => ?_, ?_⟩
    · exact Tree.eq_of_key_eq hLeaf hOther (hSeparator ▸ hClean leaf hLeaf)
        (hSeparator ▸ hClean other hOther)
    · intro key value hValue
      obtain ⟨leaf, hLeaf, rfl, rfl⟩ := hEntry key value hValue
      exact hLocal.get_key (hLeaves leaf hLeaf).2 (hClean leaf hLeaf)

/-- A new store in memory. -/
def new : Session := ⟨.memory {}, {}⟩

/-- Two values, and a separator that stands in the name of one of them. -/
def dotted : List Operation := [.put "a.b" "1", .put "a/b" "2", .setSeparator '.']

/-- The two values have one key, under which one of them is listed and the other one is read. -/
theorem flatten_disagrees_dotted :
    new.store.Opened new.world ∧
      let after := (new.run dotted).2
      ∃ tree map, after.store.subtree after.world "" = .ok tree ∧
        after.store.flatten after.world "" = .ok map ∧ tree.size = 2 ∧
        map.get? "a.b" = some "1" ∧ map.size ≠ tree.size ∧
        after.store.get after.world "a.b" = .ok (some "2") := by
  have hOpened : new.store.Opened new.world := .memory {}
  refine ⟨hOpened, ?_⟩
  intro after
  obtain ⟨tree, map, hTree, hMap, -, hSize, -⟩ := flatten_agrees hOpened dotted ""
  have hLeaves : (after.store.subtree after.world "").map (·.root.leaves) =
      .ok [(["a", "b"], "2"), (["a.b"], "1")] := by decide +kernel
  have hFound : (after.store.flatten after.world "").map (·.get? "a.b") = .ok (some "1") := by
    decide +kernel
  have hGet : after.store.get after.world "a.b" = .ok (some "2") := by decide +kernel
  rw [hTree, Except.ok_map, Except.ok.injEq] at hLeaves
  rw [hMap, Except.ok_map, Except.ok.injEq] at hFound
  refine ⟨tree, map, hTree, hMap, ?_, hFound, ?_, hGet⟩
  · rw [Tree.size, ← Node.length_leaves, hLeaves]
    rfl
  · intro hEq
    have hSame := hSize.mp hEq (["a", "b"], "2") (by rw [hLeaves]; decide) (["a.b"], "1")
      (by rw [hLeaves]; decide) (by decide +kernel)
    exact absurd hSame (by decide)

end Session

end ConfigStore
