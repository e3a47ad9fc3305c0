import ConfigStore.Proofs.Text.Utf8
import ConfigStore.Proofs.Tree.Flattening
import ConfigStore.Proofs.Tree.Locality

/-!
# The order of a walk

* `Node.mem_walk_iff`: the visits of a walk are the nodes that paths lead to, with these paths.
* `Node.sorted_walk`: the paths of the visits increase, so that no node is visited twice.
* `Tree.walk_in_order`: both together, for a whole tree. Since a path comes in front of those that
  it leads on to, parents are visited before what lies below them.

Paths are compared name by name, and names byte by byte.
-/

namespace ConfigStore

/-- The names of a path as they are compared. -/
def Path.bytes (path : List String) : List (List UInt8) :=
  path.map fun name => Utf8.encode name.toList

/-- The node that is visited. -/
def Visit.node : Visit → Node
  | branch _ children => .branch children
  | leaf _ value => .leaf value

namespace Visit

theorem path_under (name : String) (visit : Visit) :
    (visit.under name).path = name :: visit.path := by
  cases visit <;> rfl

theorem node_under (name : String) (visit : Visit) : (visit.under name).node = visit.node := by
  cases visit <;> rfl

/-- A visit is a path with a node. -/
theorem ext_node {visit other : Visit} (hPath : visit.path = other.path)
    (hNode : visit.node = other.node) : visit = other := by
  cases visit <;> cases other <;> cases hPath <;> cases hNode <;> rfl

end Visit

namespace Path

variable {path other : List String}

theorem bytes_nil_lt (h : path ≠ []) : bytes [] < bytes path := by
  obtain ⟨name, rest, rfl⟩ := List.exists_cons_of_ne_nil h
  exact List.nil_lt_cons _ _

theorem bytes_cons_lt_cons {name next : String} (h : name < next) (path other : List String) :
    bytes (name :: path) < bytes (next :: other) :=
  List.cons_lt_cons_iff.mpr (.inl (Utf8.encode_lt_encode_iff.mpr h))

theorem bytes_cons_lt_cons_self (name : String) (h : bytes path < bytes other) :
    bytes (name :: path) < bytes (name :: other) :=
  List.cons_lt_cons_iff.mpr (.inr ⟨rfl, h⟩)

/-- A path comes in front of those that it leads on to. -/
theorem bytes_lt_append {rest : List String} (h : rest ≠ []) (path : List String) :
    bytes path < bytes (path ++ rest) := by
  induction path with
  | nil => exact bytes_nil_lt h
  | cons name path ih => exact bytes_cons_lt_cons_self name ih

end Path

namespace Node

theorem walk_branch (children : List (String × Node)) :
    (branch children).walk =
      .branch [] children :: children.flatMap fun child => child.2.walk.map (·.under child.1) := by
  rw [walk]
  congr 1
  induction children with
  | nil => rfl
  | cons first rest ih => rw [walkAmong, ih, List.flatMap_cons]

/-- The visits below a branch are those of its children. -/
theorem mem_walk_branch_iff {children : List (String × Node)} {visit : Visit} :
    visit ∈ (branch children).walk ↔
      visit = .branch [] children ∨
        ∃ child ∈ children, ∃ inner ∈ child.2.walk, inner.under child.1 = visit := by
  rw [walk_branch, List.mem_cons, List.mem_flatMap]
  simp only [List.mem_map]

/-- A node is visited exactly if a path leads to it, and with this path. -/
theorem mem_walk_iff {node : Node} (h : node.Ordered) {visit : Visit} :
    visit ∈ node.walk ↔ node.get? visit.path = some visit.node := by
  induction node using inductionOn generalizing visit with
  | leaf value =>
    rw [walk, List.mem_singleton]
    constructor
    · rintro rfl
      rfl
    · intro hFound
      cases hPath : visit.path with
      | nil =>
        rw [hPath] at hFound
        exact Visit.ext_node hPath (Option.some.inj hFound).symm
      | cons name rest =>
        rw [hPath] at hFound
        cases hFound
  | branch children ih =>
    rw [mem_walk_branch_iff]
    constructor
    · rintro (rfl | ⟨⟨name, child⟩, hChild, inner, hInner, rfl⟩)
      · rfl
      · rw [Visit.path_under, Visit.node_under, get?_branch_cons,
          (Entries.lookup_eq_some_iff_mem h.sorted).mpr hChild]
        exact (ih _ hChild (h.each _ hChild)).mp hInner
    · intro hFound
      cases hPath : visit.path with
      | nil =>
        rw [hPath] at hFound
        exact .inl (Visit.ext_node hPath (Option.some.inj hFound).symm)
      | cons name rest =>
        rw [hPath, get?_branch_cons] at hFound
        obtain ⟨child, hChild, hRest⟩ := Option.bind_eq_some_iff.mp hFound
        have hMem := (Entries.lookup_eq_some_iff_mem h.sorted).mp hChild
        -- the same visit as seen from the child
        obtain ⟨inner, hInnerPath, hInnerNode⟩ :
            ∃ inner : Visit, inner.path = rest ∧ inner.node = visit.node := by
          cases visit with
          | branch _ below => exact ⟨.branch rest below, rfl, rfl⟩
          | leaf _ value => exact ⟨.leaf rest value, rfl, rfl⟩
        refine .inr ⟨(name, child), hMem, inner, ?_, ?_⟩
        · rw [ih _ hMem (h.each _ hMem), hInnerPath, hInnerNode]
          exact hRest
        · apply Visit.ext_node
          · rw [Visit.path_under, hInnerPath, hPath]
          · rw [Visit.node_under, hInnerNode]

/-- The paths of the visits increase. -/
theorem sorted_walk {node : Node} (h : node.Ordered) :
    node.walk.Pairwise fun a b => Path.bytes a.path < Path.bytes b.path := by
  induction node using inductionOn with
  | leaf value =>
    rw [walk]
    exact List.pairwise_singleton _ _
  | branch children ih =>
    rw [walk_branch, List.pairwise_cons, List.pairwise_flatMap]
    refine ⟨?_, ?_, ?_⟩
    · intro visit hVisit
      obtain ⟨child, -, hMem⟩ := List.mem_flatMap.mp hVisit
      obtain ⟨inner, -, rfl⟩ := List.mem_map.mp hMem
      rw [Visit.path_under]
      exact Path.bytes_nil_lt (List.cons_ne_nil _ _)
    · intro child hChild
      rw [List.pairwise_map]
      refine (ih child hChild (h.each child hChild)).imp ?_
      intro a b hLess
      rw [Visit.path_under, Visit.path_under]
      exact Path.bytes_cons_lt_cons_self child.1 hLess
    · refine h.sorted.imp ?_
      intro first second hLess a hFirst b hSecond
      obtain ⟨_, -, rfl⟩ := List.mem_map.mp hFirst
      obtain ⟨_, -, rfl⟩ := List.mem_map.mp hSecond
      rw [Visit.path_under, Visit.path_under]
      exact Path.bytes_cons_lt_cons hLess _ _

/-- What lies above a visited node has been visited before it. -/
theorem exists_visit_above {node : Node} (h : node.Ordered) {front behind : List Visit}
    {visit : Visit} (hWalk : node.walk = front ++ visit :: behind) {above : List String}
    (hAbove : Path.Above above visit.path) : ∃ children, .branch above children ∈ front := by
  obtain ⟨rest, hRest, hPath⟩ := Path.above_iff.mp hAbove
  have hVisit : visit ∈ node.walk := by
    rw [hWalk]
    exact List.mem_append_right _ List.mem_cons_self
  have hFound := (mem_walk_iff h).mp hVisit
  rw [hPath] at hFound
  obtain ⟨children, hBranch⟩ := exists_branch_of_get?_append hRest hFound
  have hMem : .branch above children ∈ node.walk := (mem_walk_iff h).mpr hBranch
  refine ⟨children, ?_⟩
  have hSorted := sorted_walk h
  rw [hWalk] at hMem hSorted
  obtain ⟨-, hBehind, -⟩ := List.pairwise_append.mp hSorted
  have hLess : Path.bytes above < Path.bytes visit.path := by
    rw [hPath]
    exact Path.bytes_lt_append hRest above
  rcases List.mem_append.mp hMem with hFront | hMem
  · exact hFront
  · rcases List.mem_cons.mp hMem with rfl | hMem
    · exact absurd hLess (Std.lt_irrefl (α := List (List UInt8)))
    · have hGreater := (List.pairwise_cons.mp hBehind).1 _ hMem
      exact absurd (Std.lt_trans hLess hGreater) (Std.lt_irrefl (α := List (List UInt8)))

end Node

namespace Tree

/-- A walk visits exactly the nodes of a tree, each once, in the order of their paths: the root
first, and what lies above a node before it. It meets as many leaves as the tree has values. -/
theorem walk_in_order (tree : Tree) :
    (tree.walk.Pairwise fun a b => Path.bytes a.path < Path.bytes b.path) ∧
      (∀ path, path ∈ tree.walk.map Visit.path ↔ (tree.get? path).isSome = true) ∧
      (∀ visit, visit ∈ tree.walk ↔ tree.get? visit.path = some visit.node) ∧
      (∃ children below, tree.walk = .branch [] children :: below) ∧
      (∀ front visit behind, tree.walk = front ++ visit :: behind →
        ∀ above, Path.Above above visit.path → ∃ children, .branch above children ∈ front) ∧
      (tree.walk.filterMap Visit.leaf?).length = tree.size := by
  have hMem : ∀ visit, visit ∈ tree.walk ↔ tree.get? visit.path = some visit.node :=
    fun visit => Node.mem_walk_iff tree.ordered
  refine ⟨Node.sorted_walk tree.ordered, fun path => ?_, hMem, ?_, ?_,
    Node.length_leaves tree.root⟩
  · rw [List.mem_map, Option.isSome_iff_exists]
    constructor
    · rintro ⟨visit, hVisit, rfl⟩
      exact ⟨visit.node, (hMem visit).mp hVisit⟩
    · rintro ⟨node, hNode⟩
      cases node with
      | leaf value => exact ⟨.leaf path value, (hMem _).mpr hNode, rfl⟩
      | branch children => exact ⟨.branch path children, (hMem _).mpr hNode, rfl⟩
  · have hBranch := tree.rootIsBranch
    cases hRoot : tree.root with
    | leaf value =>
      rw [hRoot] at hBranch
      cases hBranch
    | branch children =>
      have hWalk := Node.walk_branch children
      rw [← hRoot] at hWalk
      exact ⟨children, _, hWalk⟩
  · intro front visit behind hWalk above hAbove
    exact Node.exists_visit_above tree.ordered hWalk hAbove

end Tree

end ConfigStore
