import ConfigStore.Proofs.Tree.Insertion
import ConfigStore.Tree.Walk
import Mathlib.Data.Finset.Dedup

/-!
# The leaves of a node as a list

A walk lists every value with its path.

* `Node.mem_leaves_iff`: the leaves are the paths with a value.
* `Node.exists_paths`: there are finitely many of them.
-/

namespace ConfigStore

namespace Node

/-- A leaf as seen from the parent of the node it is in. -/
def leafUnder (name : String) (leaf : List String × String) : List String × String :=
  (name :: leaf.1, leaf.2)

@[simp] theorem leaves_leaf (value : String) : (leaf value).leaves = [([], value)] := by
  simp [leaves, walk, Visit.leaf?]

theorem leaf?_under (name : String) (visit : Visit) :
    (visit.under name).leaf? = visit.leaf?.map (leafUnder name) := by
  cases visit <;> rfl

theorem leaves_branch (children : List (String × Node)) :
    (branch children).leaves =
      children.flatMap fun child => child.2.leaves.map (leafUnder child.1) := by
  rw [leaves, walk, List.filterMap_cons]
  induction children with
  | nil => simp [walkAmong, Visit.leaf?]
  | cons first rest ih =>
    have hFirst : (first.2.walk.map (·.under first.1)).filterMap Visit.leaf? =
        first.2.leaves.map (leafUnder first.1) := by
      rw [List.filterMap_map, leaves, List.map_filterMap]
      exact List.filterMap_congr fun visit _ => leaf?_under first.1 visit
    rw [walkAmong, List.filterMap_append, hFirst, List.flatMap_cons]
    exact congrArg (_ ++ ·) ih

/-- The leaves are the paths with a value. -/
theorem mem_leaves_iff {node : Node} (h : node.Ordered) {path : List String} {value : String} :
    (path, value) ∈ node.leaves ↔ node.valueAt? path = some value := by
  induction node using inductionOn generalizing path with
  | leaf old => cases path <;> simp [eq_comm]
  | branch children ih =>
    rw [leaves_branch, List.mem_flatMap]
    constructor
    · rintro ⟨⟨name, child⟩, hChild, hLeaf⟩
      obtain ⟨⟨rest, found⟩, hRest, hEq⟩ := List.mem_map.mp hLeaf
      cases hEq
      rw [valueAt?_branch_cons, (Entries.lookup_eq_some_iff_mem h.sorted).mpr hChild]
      exact (ih _ hChild (h.each _ hChild)).mp hRest
    · intro hValue
      cases path with
      | nil => cases hValue
      | cons name rest =>
        rw [valueAt?_branch_cons] at hValue
        obtain ⟨child, hChild, hRest⟩ := Option.bind_eq_some_iff.mp hValue
        have hMem := (Entries.lookup_eq_some_iff_mem h.sorted).mp hChild
        exact ⟨(name, child), hMem,
          List.mem_map.mpr ⟨(rest, value), (ih _ hMem (h.each _ hMem)).mpr hRest, rfl⟩⟩

/-- The paths with a value are finitely many. -/
theorem exists_paths {node : Node} (h : node.Ordered) :
    ∃ paths : Finset (List String), ∀ path,
      path ∈ paths ↔ ∃ value, node.valueAt? path = some value := by
  refine ⟨(node.leaves.map Prod.fst).toFinset, fun path => ?_⟩
  simp [mem_leaves_iff h]

end Node

end ConfigStore
