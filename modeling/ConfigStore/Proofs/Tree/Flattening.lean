import ConfigStore.Proofs.NameMap
import ConfigStore.Proofs.Path
import ConfigStore.Proofs.Tree.Leaves

/-!
# Flattening

A flattened tree holds each value under its joined path. Different paths can be joined to the
same key, and then the last one counts.

* `Tree.get?_flatten`: under a key stands the last leaf whose path is joined to it.
* `Tree.size_flatten_eq_iff`: no value is lost if and only if the leaves have different keys.
* `Tree.eq_of_key_eq`: leaves whose names are clean have different keys.
-/

namespace ConfigStore

namespace Node

/-- The number of leaves is the length of their list. -/
theorem length_leaves (node : Node) : node.leaves.length = node.leafCount := by
  induction node using inductionOn with
  | leaf value => rw [leaves_leaf, leafCount, List.length_singleton]
  | branch children ih =>
    rw [leaves_branch, leafCount, List.length_flatMap]
    induction children with
    | nil => rw [leafCountAmong, List.map_nil, List.sum_nil]
    | cons first rest ihRest =>
      rw [leafCountAmong, List.map_cons, List.sum_cons, List.length_map,
        ih first List.mem_cons_self,
        ihRest fun child hChild => ih child (List.mem_cons_of_mem _ hChild)]

/-- No leaf is listed twice. -/
theorem nodup_leaves {node : Node} (h : node.Ordered) : node.leaves.Nodup := by
  induction node using inductionOn with
  | leaf value =>
    rw [leaves_leaf]
    exact List.nodup_singleton _
  | branch children ih =>
    rw [leaves_branch, List.nodup_flatMap]
    constructor
    · intro child hChild
      refine (ih child hChild (h.each child hChild)).map ?_
      rintro ⟨path, value⟩ ⟨other, found⟩ hEq
      cases hEq
      rfl
    · refine h.sorted.imp ?_
      intro first second hLt leaf hFirst hSecond
      obtain ⟨_, -, rfl⟩ := List.mem_map.mp hFirst
      obtain ⟨_, -, hEq⟩ := List.mem_map.mp hSecond
      rw [(List.cons.inj (congrArg Prod.fst hEq)).1] at hLt
      exact String.lt_irrefl _ hLt

end Node

namespace Tree

/-- The key of a leaf, with its value. -/
def entryOf (separator : Char) (leaf : List String × String) : String × String :=
  (Path.join separator leaf.1, leaf.2)

theorem flatten_eq_ofList (tree : Tree) :
    tree.flatten = NameMap.ofList (tree.root.leaves.map (entryOf tree.separator)) := rfl

theorem get?_flatten (tree : Tree) (key : String) :
    tree.flatten.get? key =
      (tree.root.leaves.map (entryOf tree.separator)).reverse.lookup key := by
  rw [flatten_eq_ofList, NameMap.get?_ofList]

/-- What stands under a key is the value of a leaf with this key. -/
theorem exists_leaf_of_get?_flatten {tree : Tree} {key value : String}
    (h : tree.flatten.get? key = some value) :
    ∃ leaf ∈ tree.root.leaves, Path.join tree.separator leaf.1 = key ∧ leaf.2 = value := by
  obtain ⟨leaf, hLeaf, hEq⟩ := List.mem_map.mp (NameMap.mem_of_get?_ofList h)
  exact ⟨leaf, hLeaf, congrArg Prod.fst hEq, congrArg Prod.snd hEq⟩

theorem isSome_get?_flatten_iff {tree : Tree} {key : String} :
    (tree.flatten.get? key).isSome = true ↔
      ∃ leaf ∈ tree.root.leaves, Path.join tree.separator leaf.1 = key := by
  rw [flatten_eq_ofList, NameMap.isSome_get?_ofList_iff, List.map_map, List.mem_map]
  rfl

/-- Flattening loses no value if and only if the leaves have different keys. -/
theorem size_flatten_eq_iff {tree : Tree} :
    tree.flatten.size = tree.size ↔
      ∀ leaf ∈ tree.root.leaves, ∀ other ∈ tree.root.leaves,
        Path.join tree.separator leaf.1 = Path.join tree.separator other.1 → leaf = other := by
  have hLength : tree.size = (tree.root.leaves.map (entryOf tree.separator)).length := by
    rw [List.length_map, Node.length_leaves, size]
  rw [flatten_eq_ofList, hLength, NameMap.size_ofList_eq_iff, List.map_map,
    List.nodup_map_iff_inj_on (Node.nodup_leaves tree.ordered)]
  rfl

/-- Leaves with clean paths have different keys. -/
theorem eq_of_key_eq {tree : Tree} {leaf other : List String × String}
    (hLeaf : leaf ∈ tree.root.leaves) (hOther : other ∈ tree.root.leaves)
    (hClean : Path.Clean tree.separator leaf.1) (hClean' : Path.Clean tree.separator other.1)
    (h : Path.join tree.separator leaf.1 = Path.join tree.separator other.1) : leaf = other := by
  have hPath := Path.eq_of_join_eq hClean hClean' h
  have hValue := (Node.mem_leaves_iff tree.ordered).mp hLeaf
  rw [hPath, (Node.mem_leaves_iff tree.ordered).mp hOther] at hValue
  exact Prod.ext hPath (Option.some.inj hValue).symm

end Tree

end ConfigStore
