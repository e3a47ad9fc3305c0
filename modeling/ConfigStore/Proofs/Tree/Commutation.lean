import ConfigStore.Proofs.Tree.Insertion
import Mathlib.Data.List.Perm.Basic

/-!
# Insertions in any order

Values at different paths can be inserted in any order: either every order succeeds, and all of them
give the same tree, or every order fails. There is no condition on the tree, which may have empty
branches.

* `Node.overwrite_comm`: two overwrites at different paths can be exchanged. If the second one has
  room after the first one, it has room before it too.
* `Tree.insert_comm` is the same for trees, and `Tree.insertAll_perm` goes on from there to any two
  orders of a list.
* `Tree.insertAll_in_any_order` adds that an order fails if another one does.
-/

namespace ConfigStore

namespace Node

variable {path other rest : List String} {value text name : String} {node first both : Node}

/-- A node with the leaf at the end of a path overwritten, or what is made where it is missing. -/
def overwriteFound (value : String) (path : List String) : Option Node → Except Obstacle Node
  | none => .ok (chain path (leaf value))
  | some node => overwrite value path node

/-- An overwrite below a branch goes on with the child of the first name. -/
theorem overwrite_branch_cons_eq_ok_iff {children : List (String × Node)} {changed : Node} :
    overwrite value (name :: rest) (branch children) = .ok changed ↔
      ∃ below, overwriteFound value rest (children.lookup name) = .ok below ∧
        changed = branch (Entries.insert name below children) := by
  rw [overwrite_branch_cons]
  cases children.lookup name with
  | none => simp [overwriteFound, eq_comm]
  | some child =>
    cases hBelow : overwrite value rest child with
    | ok below => simp [overwriteFound, hBelow, eq_comm]
    | error obstacle => simp [overwriteFound, hBelow]

/-- What is made for a path that leads on is made below an empty branch. -/
theorem overwriteFound_none (value name : String) (rest : List String) :
    overwriteFound value (name :: rest) none =
      overwriteFound value (name :: rest) (some empty) := by
  rw [overwriteFound, overwriteFound, empty, overwrite_branch_cons, List.lookup_nil]
  rfl

/-- Nothing is found below a leaf, and no leaf takes the place of a branch. -/
theorem overwrite_of_overwriteFound_nil {found : Option Node}
    (h : overwriteFound value [] found = .ok first) (hNe : [] ≠ other) :
    overwrite text other first ≠ .ok both := by
  intro hNext
  have hFirst : first = leaf value := by
    cases found with
    | none =>
      cases h
      rfl
    | some node =>
      cases node with
      | leaf old =>
        cases h
        rfl
      | branch children => cases h
  subst hFirst
  cases other with
  | nil => exact hNe rfl
  | cons name rest => cases hNext

/-- Two overwrites at different paths can be exchanged, also where nothing is yet. -/
theorem overwriteFound_comm {found : Option Node} (hOrdered : ∀ node ∈ found, node.Ordered)
    (hNe : path ≠ other) (h : overwriteFound value path found = .ok first)
    (hNext : overwrite text other first = .ok both) :
    ∃ second, overwriteFound text other found = .ok second ∧
      overwrite value path second = .ok both := by
  induction path generalizing other found first both with
  | nil => exact absurd hNext (overwrite_of_overwriteFound_nil h hNe)
  | cons name rest ih =>
    -- a branch is overwritten below the name, be it that it is made first
    obtain ⟨node, hNode, hFirst, hSame⟩ : ∃ node : Node, node.Ordered ∧
        overwrite value (name :: rest) node = .ok first ∧
        ∀ last names, overwriteFound text (last :: names) found =
          overwrite text (last :: names) node := by
      cases found with
      | none =>
        rw [overwriteFound_none] at h
        exact ⟨empty, ordered_empty, h, overwriteFound_none text⟩
      | some node => exact ⟨node, hOrdered node rfl, h, fun _ _ => rfl⟩
    cases node with
    | leaf old => cases hFirst
    | branch children =>
      obtain ⟨below, hBelow, rfl⟩ := overwrite_branch_cons_eq_ok_iff.mp hFirst
      cases other with
      | nil => cases hNext
      | cons last names =>
        obtain ⟨after, hAfter, rfl⟩ := overwrite_branch_cons_eq_ok_iff.mp hNext
        rw [hSame]
        by_cases hName : last = name
        · subst hName
          rw [Entries.lookup_insert_self] at hAfter
          have hRest : rest ≠ names := fun hEq => hNe (by rw [hEq])
          obtain ⟨second, hSecond, hBoth⟩ :=
            ih (fun child hChild => hNode.lookup hChild) hRest hBelow hAfter
          refine ⟨_, overwrite_branch_cons_eq_ok_iff.mpr ⟨second, hSecond, rfl⟩, ?_⟩
          apply overwrite_branch_cons_eq_ok_iff.mpr
          refine ⟨after, ?_, ?_⟩
          · rw [Entries.lookup_insert_self]
            exact hBoth
          · rw [Entries.insert_insert_self hNode.sorted, Entries.insert_insert_self hNode.sorted]
        · rw [Entries.lookup_insert_of_ne hName] at hAfter
          refine ⟨_, overwrite_branch_cons_eq_ok_iff.mpr ⟨after, hAfter, rfl⟩, ?_⟩
          apply overwrite_branch_cons_eq_ok_iff.mpr
          refine ⟨below, ?_, ?_⟩
          · rw [Entries.lookup_insert_of_ne (Ne.symm hName)]
            exact hBelow
          · rw [Entries.insert_comm hNode.sorted hName]

/-- Two overwrites at different paths can be exchanged. -/
theorem overwrite_comm (hOrdered : node.Ordered) (hNe : path ≠ other)
    (h : overwrite value path node = .ok first) (hNext : overwrite text other first = .ok both) :
    ∃ second, overwrite text other node = .ok second ∧ overwrite value path second = .ok both := by
  have hFound : ∀ inner ∈ some node, inner.Ordered := by
    intro inner hInner
    cases hInner
    exact hOrdered
  exact overwriteFound_comm hFound hNe h hNext

end Node

namespace Tree

variable {tree first both changed : Tree} {path other : List String} {value text : String}
  {entries others : List (List String × String)}

/-- Two insertions at different paths can be exchanged. -/
theorem insert_comm (hNe : path ≠ other) (h : tree.insert path value = .ok first)
    (hNext : first.insert other text = .ok both) :
    ∃ second, tree.insert other text = .ok second ∧ second.insert path value = .ok both := by
  obtain ⟨hPath, hFirst, hSeparator⟩ := insert_eq_ok_iff.mp h
  obtain ⟨hOther, hBoth, hSeparator'⟩ := insert_eq_ok_iff.mp hNext
  obtain ⟨root, hRoot, hLast⟩ := Node.overwrite_comm tree.ordered hNe hFirst hBoth
  obtain ⟨second, hSecond, rfl⟩ := exists_insert_of_overwrite hOther hRoot
  refine ⟨second, hSecond, insert_eq_ok_iff.mpr ⟨hPath, hLast, ?_⟩⟩
  rw [hSeparator', hSeparator, separator_insert hSecond]

/-- Values at different paths that can be inserted in one order can be inserted in any other one,
with the same result. -/
theorem insertAll_perm (hPerm : entries.Perm others)
    (hDistinct : entries.Pairwise fun entry other => entry.1 ≠ other.1)
    (h : tree.insertAll entries = .ok changed) : tree.insertAll others = .ok changed := by
  induction hPerm generalizing tree with
  | nil => exact h
  | cons entry hRest ih =>
    obtain ⟨next, hNext, hAll⟩ := insertAll_cons_eq_ok_iff.mp h
    exact insertAll_cons_eq_ok_iff.mpr ⟨next, hNext, ih (List.pairwise_cons.mp hDistinct).2 hAll⟩
  | swap entry last rest =>
    obtain ⟨next, hNext, hAll⟩ := insertAll_cons_eq_ok_iff.mp h
    obtain ⟨both, hBoth, hRest⟩ := insertAll_cons_eq_ok_iff.mp hAll
    have hNe : last.1 ≠ entry.1 := (List.pairwise_cons.mp hDistinct).1 entry List.mem_cons_self
    obtain ⟨second, hSecond, hSame⟩ := insert_comm hNe hNext hBoth
    exact insertAll_cons_eq_ok_iff.mpr
      ⟨second, hSecond, insertAll_cons_eq_ok_iff.mpr ⟨both, hSame, hRest⟩⟩
  | trans hFirst hSecond ih ih' =>
    apply ih' (hDistinct.perm hFirst fun hNe => hNe.symm)
    exact ih hDistinct h

/-- Whatever the tree, values at pairwise different paths that are inserted one after the other give
the same tree in both of two orders, or there is a failure in both of them. -/
theorem insertAll_in_any_order (tree : Tree)
    (hDistinct : entries.Pairwise fun entry other => entry.1 ≠ other.1)
    (hPerm : entries.Perm others) :
    (∃ changed, tree.insertAll entries = .ok changed ∧ tree.insertAll others = .ok changed) ∨
      ∃ error failure, tree.insertAll entries = .error error ∧
        tree.insertAll others = .error failure := by
  cases hEntries : tree.insertAll entries with
  | ok changed => exact .inl ⟨changed, rfl, insertAll_perm hPerm hDistinct hEntries⟩
  | error error =>
    cases hOthers : tree.insertAll others with
    | error failure => exact .inr ⟨error, failure, rfl, rfl⟩
    | ok changed =>
      have hDistinct' := hDistinct.perm hPerm fun hNe => hNe.symm
      cases hEntries.symm.trans (insertAll_perm hPerm.symm hDistinct' hOthers)

/-- A value above another one, and one beside both. -/
def crossing : List (List String × String) := [(["a"], "1"), (["b"], "2"), (["a", "b"], "3")]

/-- The last value finds a leaf in its way, and put first it is a branch in the way of the first
one. -/
theorem insertAll_in_any_order_crossing :
    (crossing.Pairwise fun entry other => entry.1 ≠ other.1) ∧ crossing.Perm crossing.reverse ∧
      ∃ error failure, (empty '/').insertAll crossing = .error error ∧
        (empty '/').insertAll crossing.reverse = .error failure := by
  have hDistinct : crossing.Pairwise fun entry other => entry.1 ≠ other.1 := by
    simp [crossing]
  have hPerm : crossing.Perm crossing.reverse := (List.reverse_perm crossing).symm
  refine ⟨hDistinct, hPerm, ?_⟩
  rcases insertAll_in_any_order (empty '/') hDistinct hPerm with ⟨changed, hChanged, -⟩ | hFails
  · cases hChanged
  · exact hFails

end Tree

end ConfigStore
