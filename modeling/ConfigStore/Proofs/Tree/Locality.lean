import ConfigStore.Proofs.Tree.Assignment

/-!
# Assignments are exact and local

An assignment is seen from the paths: which paths can be assigned, and what every path leads to
afterwards.

* `Node.exists_overwrite_iff_get?`: nothing may stand above the path but branches, and no branch at
  its end.
* `Node.get?_overwrite_of_not_prefix`: a path that the assigned path does not go through leads to
  the same node as before.
* `Node.leafCount_overwrite`: a leaf is added where the path led to nothing, and only there.
* `Node.assign_exact` puts these together with what is left of a failure.

Empty branches are nodes like any other here, so that there is no condition on the node but the
order of its names.
-/

namespace ConfigStore

/-- One path is a proper beginning of another one. -/
def Path.Above (above path : List String) : Prop := above <+: path ∧ above ≠ path

theorem Path.above_iff {above path : List String} :
    Above above path ↔ ∃ rest, rest ≠ [] ∧ path = above ++ rest := by
  constructor
  · rintro ⟨⟨rest, rfl⟩, hNe⟩
    refine ⟨rest, ?_, rfl⟩
    rintro rfl
    exact hNe (List.append_nil above).symm
  · rintro ⟨rest, hRest, rfl⟩
    refine ⟨List.prefix_append above rest, fun hEq => hRest ?_⟩
    exact List.append_right_eq_self.mp hEq.symm

namespace Node

variable {node changed : Node} {path other : List String} {value : String}

/-! ## Which paths can be assigned -/

/-- What cannot be overwritten in a part of a node cannot be overwritten in the node. -/
theorem overwrite_append_ne_ok {found : Node} {above rest : List String}
    (hFound : node.get? above = some found)
    (h : ∀ below, overwrite value rest found ≠ .ok below) :
    overwrite value (above ++ rest) node ≠ .ok changed := by
  induction above generalizing node changed with
  | nil =>
    cases hFound
    exact h changed
  | cons name above ih =>
    cases node with
    | leaf old => cases hFound
    | branch children =>
      intro hChanged
      obtain ⟨child, hChild, hFound⟩ := Option.bind_eq_some_iff.mp hFound
      obtain ⟨below, -, ⟨hNone, -⟩ | ⟨other, hOther, hBelow⟩⟩ := overwrite_branch_cases hChanged
      · cases hNone.symm.trans hChild
      · cases hOther.symm.trans hChild
        exact ih hFound hBelow

/-- A path can be overwritten if and only if no leaf stands above it and no branch at its end. -/
theorem exists_overwrite_iff_get? :
    (∃ changed, overwrite value path node = .ok changed) ↔
      (∀ above old, Path.Above above path → node.get? above ≠ some (leaf old)) ∧
        ∀ children, node.get? path ≠ some (branch children) := by
  constructor
  · rintro ⟨changed, hChanged⟩
    constructor
    · intro above old hAbove hLeaf
      obtain ⟨rest, hRest, rfl⟩ := Path.above_iff.mp hAbove
      refine overwrite_append_ne_ok hLeaf ?_ hChanged
      intro below hBelow
      cases rest with
      | nil => exact hRest rfl
      | cons name rest => cases hBelow
    · intro children hBranch
      rw [← List.append_nil path] at hChanged
      refine overwrite_append_ne_ok hBranch ?_ hChanged
      intro below hBelow
      cases hBelow
  · rintro ⟨hLeaf, hBranch⟩
    cases h : overwrite value path node with
    | ok changed => exact ⟨changed, rfl⟩
    | error obstacle =>
      rcases overwrite_eq_error h with ⟨above, rest, old, hRest, hPath, hOld, -⟩ |
          ⟨children, hFound, -⟩
      · exact absurd hOld (hLeaf above old (Path.above_iff.mpr ⟨rest, hRest, hPath⟩))
      · exact absurd hFound (hBranch children)

/-! ## Where paths lead afterwards -/

theorem get?_overwrite (h : overwrite value path node = .ok changed) :
    changed.get? path = some (leaf value) := by
  rw [← valueAt?_eq_some_iff, valueAt?_overwrite h, if_pos rfl]

/-- What a path leads through is a branch. -/
theorem exists_branch_of_get?_append {found : Node} {above rest : List String} (hRest : rest ≠ [])
    (h : node.get? (above ++ rest) = some found) :
    ∃ children, node.get? above = some (branch children) := by
  rw [get?_append] at h
  obtain ⟨inner, hInner, hFound⟩ := Option.bind_eq_some_iff.mp h
  cases inner with
  | branch children => exact ⟨children, hInner⟩
  | leaf old =>
    cases rest with
    | nil => exact absurd rfl hRest
    | cons name rest => cases hFound

/-- A chain with a leaf at its end has no other nodes than those on the way to it. -/
theorem get?_chain_leaf (hOther : ¬ other <+: path) :
    (chain path (leaf value)).get? other = none := by
  by_cases hBelow : path <+: other
  · obtain ⟨rest, rfl⟩ := hBelow
    rw [get?_chain_append]
    cases rest with
    | nil => exact absurd (by simp) hOther
    | cons name rest => rfl
  · exact get?_chain_of_apart hOther hBelow _

/-- A path that the assigned one does not go through leads to the same node as before. -/
theorem get?_overwrite_of_not_prefix (h : overwrite value path node = .ok changed)
    (hOther : ¬ other <+: path) : changed.get? other = node.get? other := by
  induction path generalizing node changed other with
  | nil =>
    cases node with
    | branch children => cases h
    | leaf old =>
      cases h
      cases other with
      | nil => exact absurd List.nil_prefix hOther
      | cons first other => rfl
  | cons name rest ih =>
    cases node with
    | leaf old => cases h
    | branch children =>
      obtain ⟨below, rfl, hBelow⟩ := overwrite_branch_cases h
      cases other with
      | nil => exact absurd List.nil_prefix hOther
      | cons first other =>
        rw [get?_branch_cons, get?_branch_cons]
        by_cases hName : first = name
        · subst hName
          rw [List.cons_prefix_cons, and_iff_right rfl] at hOther
          rw [Entries.lookup_insert_self, Option.bind_some]
          rcases hBelow with ⟨hNone, rfl⟩ | ⟨child, hChild, hBelow⟩
          · rw [hNone, Option.bind_none, get?_chain_leaf hOther]
          · rw [hChild, Option.bind_some]
            exact ih hBelow hOther
        · rw [Entries.lookup_insert_of_ne hName]

/-! ## The number of leaves -/

theorem leafCount_chain (path : List String) (node : Node) :
    (chain path node).leafCount = node.leafCount := by
  induction path with
  | nil => rfl
  | cons name rest ih =>
    rw [chain, leafCount, leafCountAmong, leafCountAmong, ih, Nat.add_zero]

/-- The leaves of the child that is put in the place of another one are counted instead of its. -/
theorem leafCountAmong_insert {children : List (String × Node)} (h : Entries.Sorted children)
    (name : String) (child : Node) :
    leafCountAmong (Entries.insert name child children) +
        ((children.lookup name).elim 0 leafCount) =
      leafCountAmong children + child.leafCount := by
  induction children with
  | nil => simp [Entries.insert, leafCountAmong]
  | cons first rest ih =>
    obtain ⟨hFirst, hRest⟩ := List.pairwise_cons.mp h
    rw [Entries.insert]
    split
    next hLt =>
      have hNone : List.lookup name (first :: rest) = none := by
        rw [List.lookup_eq_none_iff]
        intro entry hEntry
        apply bne_iff_ne.mpr
        rintro rfl
        rcases List.mem_cons.mp hEntry with rfl | hEntry
        · exact String.lt_irrefl _ hLt
        · exact String.lt_irrefl _ (String.lt_trans hLt (hFirst entry hEntry))
      rw [hNone, Option.elim_none, leafCountAmong]
      omega
    next hGe =>
      split
      next hEq =>
        rw [hEq, List.lookup_cons, beq_self_eq_true, Option.elim_some, leafCountAmong,
          leafCountAmong]
        omega
      next hNe =>
        have hCount := ih hRest
        have hLookup : List.lookup name (first :: rest) = rest.lookup name := by
          rw [List.lookup_cons, beq_eq_false_iff_ne.mpr hNe]
        rw [hLookup, leafCountAmong, leafCountAmong]
        omega

/-- A leaf is added where the path led to nothing, and only there. -/
theorem leafCount_overwrite (hOrdered : node.Ordered)
    (h : overwrite value path node = .ok changed) :
    changed.leafCount = node.leafCount + if node.get? path = none then 1 else 0 := by
  induction path generalizing node changed with
  | nil =>
    cases node with
    | branch children => cases h
    | leaf old =>
      cases h
      rfl
  | cons name rest ih =>
    cases node with
    | leaf old => cases h
    | branch children =>
      obtain ⟨below, rfl, hBelow⟩ := overwrite_branch_cases h
      have hCount := leafCountAmong_insert hOrdered.sorted name below
      rw [leafCount, leafCount, get?_branch_cons]
      rcases hBelow with ⟨hNone, rfl⟩ | ⟨child, hChild, hBelow⟩
      · rw [hNone, Option.elim_none, leafCount_chain, leafCount] at hCount
        rw [hNone, Option.bind_none, if_pos rfl]
        omega
      · have hChanged := ih (hOrdered.lookup hChild) hBelow
        rw [hChild, Option.elim_some] at hCount
        rw [hChild, Option.bind_some]
        omega

/-! ## Assignments -/

/-- An assignment that succeeds has overwritten, and one that fails has left the node as it was. -/
theorem assign_cases (hOrdered : node.Ordered) (path : List String) (value : String) :
    (path = [] ∧ node.assign path value = ⟨.error .emptyPath, node⟩) ∨
      path ≠ [] ∧ ((∃ changed, overwrite value path node = .ok changed ∧
          node.assign path value = ⟨.ok (), changed⟩) ∨
        ∃ obstacle, overwrite value path node = .error obstacle ∧
          node.assign path value = ⟨.error obstacle, node⟩) := by
  have hStaged := (atomic_assign hOrdered path value).eq_staged
  rw [← put, put_eq_overwrite] at hStaged
  by_cases hPath : path = []
  · rw [if_pos hPath] at hStaged
    exact .inl ⟨hPath, hStaged⟩
  · rw [if_neg hPath] at hStaged
    refine .inr ⟨hPath, ?_⟩
    cases hPut : overwrite value path node with
    | ok changed =>
      rw [hPut] at hStaged
      exact .inl ⟨changed, rfl, hStaged⟩
    | error obstacle =>
      rw [hPut] at hStaged
      exact .inr ⟨obstacle, rfl, hStaged⟩

/-- A leaf can be assigned at a path if and only if the path is not empty, no leaf stands above it
and no branch at its end. A failure changes nothing and names what stands in the way. A success
makes the path lead to the leaf and branches stand above it; every path that it does not go through
leads to the same node as before, and a leaf is added if and only if the path led to nothing. -/
theorem assign_exact (hOrdered : node.Ordered) (path : List String) (value : String)
    (separator : Char) :
    let change := node.assign path value
    (change.outcome = .ok () ↔
      path ≠ [] ∧ (∀ above old, Path.Above above path → node.get? above ≠ some (leaf old)) ∧
        ∀ children, node.get? path ≠ some (branch children)) ∧
    (∀ obstacle, change.outcome = .error obstacle → change.state = node ∧
      (path = [] ∧
          obstacle.toError separator =
            .invalidPath "cannot insert a value at an empty path" ∨
        path ≠ [] ∧ (∃ above old, Path.Above above path ∧ node.get? above = some (leaf old) ∧
          obstacle.toError separator = .pathConflict (Path.join separator above)
            "a value exists where a branch is needed") ∨
        path ≠ [] ∧ ∃ children, node.get? path = some (branch children) ∧
          obstacle.toError separator = .pathConflict (Path.join separator path)
            "a branch exists where a value would be set")) ∧
    (change.outcome = .ok () →
      change.state.get? path = some (leaf value) ∧
      (∀ other, ¬ other <+: path → change.state.get? other = node.get? other) ∧
      (∀ above, Path.Above above path →
        ∃ children, change.state.get? above = some (branch children)) ∧
      change.state.leafCount =
        node.leafCount + if node.get? path = none then 1 else 0) := by
  intro change
  rcases assign_cases hOrdered path value with ⟨hPath, hAssign⟩ |
      ⟨hPath, ⟨changed, hChanged, hAssign⟩ | ⟨obstacle, hObstacle, hAssign⟩⟩
  · have hChange : change = ⟨.error .emptyPath, node⟩ := hAssign
    rw [hChange]
    refine ⟨⟨nofun, fun h => absurd hPath h.1⟩, ?_, nofun⟩
    intro obstacle h
    cases h
    exact ⟨rfl, .inl ⟨hPath, rfl⟩⟩
  · have hChange : change = ⟨.ok (), changed⟩ := hAssign
    rw [hChange]
    refine ⟨iff_of_true rfl ⟨hPath, exists_overwrite_iff_get?.mp ⟨changed, hChanged⟩⟩, nofun, ?_⟩
    intro _
    refine ⟨get?_overwrite hChanged, fun other => get?_overwrite_of_not_prefix hChanged, ?_,
      leafCount_overwrite hOrdered hChanged⟩
    intro above hAbove
    obtain ⟨rest, hRest, rfl⟩ := Path.above_iff.mp hAbove
    exact exists_branch_of_get?_append hRest (get?_overwrite hChanged)
  · have hChange : change = ⟨.error obstacle, node⟩ := hAssign
    rw [hChange]
    refine ⟨⟨nofun, fun h => ?_⟩, ?_, nofun⟩
    · obtain ⟨changed, hChanged⟩ : ∃ changed, overwrite value path node = .ok changed :=
        exists_overwrite_iff_get?.mpr h.2
      cases hObstacle.symm.trans hChanged
    · intro other h
      cases h
      refine ⟨rfl, .inr ?_⟩
      rcases overwrite_eq_error hObstacle with ⟨above, rest, old, hRest, hEq, hOld, rfl⟩ |
          ⟨children, hFound, rfl⟩
      · exact .inl ⟨hPath, above, old, Path.above_iff.mpr ⟨rest, hRest, hEq⟩, hOld, rfl⟩
      · exact .inr ⟨hPath, children, hFound, rfl⟩

/-- An empty branch and a leaf. -/
def branchAndLeaf : Node := branch [("a", empty), ("s", leaf "1")]

theorem ordered_branchAndLeaf : branchAndLeaf.Ordered :=
  .branch (by decide) (by simp [ordered_empty, Ordered.leaf])

/-- A leaf is added below the branch, and nothing can be put below the leaf. -/
theorem assign_exact_branchAndLeaf :
    branchAndLeaf.Ordered ∧
      ((branchAndLeaf.assign ["a", "b", ""] "2").outcome = .ok () ∧
        (branchAndLeaf.assign ["a", "b", ""] "2").state.leafCount = 2) ∧
      ∃ obstacle, (branchAndLeaf.assign ["s", "x"] "2").outcome = .error obstacle ∧
        (branchAndLeaf.assign ["s", "x"] "2").state = branchAndLeaf := by
  have hAdded := assign_exact ordered_branchAndLeaf ["a", "b", ""] "2" '/'
  have hRefused := assign_exact ordered_branchAndLeaf ["s", "x"] "2" '/'
  have hDone : (branchAndLeaf.assign ["a", "b", ""] "2").outcome = .ok () := rfl
  have hError : (branchAndLeaf.assign ["s", "x"] "2").outcome = .error (.leafAt ["s"]) := rfl
  exact ⟨ordered_branchAndLeaf, ⟨hDone, (hAdded.2.2 hDone).2.2.2⟩, _, hError,
    (hRefused.2.1 _ hError).1⟩

end Node

end ConfigStore
