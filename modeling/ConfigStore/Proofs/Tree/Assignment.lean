import ConfigStore.Proofs.Outcome
import ConfigStore.Proofs.Tree.Values

/-!
# Assignments to nodes

What becomes of a node when a leaf is set in place.

* `Node.atomic_assign`: an assignment that fails leaves the node as it was. A node is only made
  where one is missing, and below it there is no obstacle (`Node.descend_fresh`).
* `Node.overwrite` is the node after an assignment that succeeds; `Node.valueAt?_overwrite` says
  what is found in it, and `Node.filled_overwrite` that no empty branch is left behind.
* `Node.exists_overwrite_iff`: a path can be overwritten unless it clashes with a path that
  has a value.
-/

namespace ConfigStore.Node

/-! ## Steps of an assignment -/

theorem descend_branch_cons (value name : String) (rest : List String)
    (children : List (String × Node)) :
    descend value (name :: rest) (branch children) =
      ⟨(descend value rest ((children.lookup name).getD (fresh value rest))).outcome.mapError
          (·.under name),
        branch (Entries.insert name
          (descend value rest ((children.lookup name).getD (fresh value rest))).state children)⟩ :=
  rfl

/-- What is missing is made without an obstacle. -/
theorem descend_fresh (value : String) (path : List String) :
    descend value path (fresh value path) = ⟨.ok (), chain path (leaf value)⟩ := by
  induction path with
  | nil => rfl
  | cons name rest ih =>
    rw [fresh, empty, descend_branch_cons, List.lookup_nil, Option.getD_none, ih]
    rfl

/-- An obstacle is met before anything is made. -/
theorem atomic_descend {node : Node} (h : node.Ordered) (value : String) (path : List String) :
    (descend value path node).Atomic node := by
  intro obstacle hObstacle
  induction path generalizing node obstacle with
  | nil =>
    cases node with
    | leaf old => cases hObstacle
    | branch children => rfl
  | cons name rest ih =>
    cases node with
    | leaf old => rfl
    | branch children =>
      rw [descend_branch_cons] at hObstacle ⊢
      cases hChild : children.lookup name with
      | none =>
        rw [hChild, Option.getD_none, descend_fresh] at hObstacle
        cases hObstacle
      | some child =>
        rw [hChild, Option.getD_some] at hObstacle
        cases hBelow : (descend value rest child).outcome with
        | ok done =>
          rw [hBelow] at hObstacle
          cases hObstacle
        | error below =>
          have hSame := ih (h.lookup hChild) below hBelow
          -- the child is stored again under its name, which changes nothing in ordered children
          rw [Option.getD_some, hSame, Entries.insert_eq_self h.sorted hChild]

/-- An assignment that fails leaves the node as it was. -/
theorem atomic_assign {node : Node} (h : node.Ordered) (path : List String) (value : String) :
    (node.assign path value).Atomic node := by
  rw [assign]
  split
  · intro obstacle hObstacle
    rfl
  · exact atomic_descend h value path

/-! ## Overwriting -/

/-- The node with the leaf at the end of a path overwritten. -/
def overwrite (value : String) (path : List String) (node : Node) : Except Obstacle Node :=
  (descend value path node).committed

@[simp] theorem overwrite_leaf_nil (value old : String) :
    overwrite value [] (leaf old) = .ok (leaf value) := rfl

@[simp] theorem overwrite_branch_nil (value : String) (children : List (String × Node)) :
    overwrite value [] (branch children) = .error (.branchAt []) := rfl

@[simp] theorem overwrite_leaf_cons (value name old : String) (rest : List String) :
    overwrite value (name :: rest) (leaf old) = .error (.leafAt []) := rfl

theorem put_eq_overwrite (node : Node) (path : List String) (value : String) :
    node.put path value = if path = [] then .error .emptyPath else overwrite value path node := by
  rw [put, assign, overwrite]
  split <;> rfl

theorem overwrite_branch_cons (value name : String) (rest : List String)
    (children : List (String × Node)) :
    overwrite value (name :: rest) (branch children) =
      match children.lookup name with
      | none => .ok (branch (Entries.insert name (chain rest (leaf value)) children))
      | some child =>
        match overwrite value rest child with
        | .ok changed => .ok (branch (Entries.insert name changed children))
        | .error obstacle => .error (obstacle.under name) := by
  rw [overwrite, descend_branch_cons]
  cases children.lookup name with
  | none =>
    rw [Option.getD_none, descend_fresh]
    rfl
  | some child =>
    rw [Option.getD_some]
    simp only [overwrite, Change.committed]
    cases (descend value rest child).outcome <;> rfl

/-- What an overwrite below a branch does: it adds a chain, or changes a child. -/
theorem overwrite_branch_cases {value name : String} {rest : List String}
    {children : List (String × Node)} {changed : Node}
    (h : overwrite value (name :: rest) (branch children) = .ok changed) :
    ∃ below, changed = branch (Entries.insert name below children) ∧
      (children.lookup name = none ∧ below = chain rest (leaf value) ∨
        ∃ child, children.lookup name = some child ∧ overwrite value rest child = .ok below) := by
  rw [overwrite_branch_cons] at h
  split at h
  next hNone =>
    cases h
    exact ⟨_, rfl, .inl ⟨hNone, rfl⟩⟩
  next child hChild =>
    split at h
    next below hBelow =>
      cases h
      exact ⟨below, rfl, .inr ⟨child, hChild, hBelow⟩⟩
    · cases h

/-- Overwriting sets the value at its path and no other. -/
theorem valueAt?_overwrite {value : String} {path : List String} {node changed : Node}
    (h : overwrite value path node = .ok changed) (other : List String) :
    changed.valueAt? other = if other = path then some value else node.valueAt? other := by
  induction path generalizing node changed other with
  | nil =>
    cases node with
    | branch children => cases h
    | leaf old =>
      cases h
      cases other with
      | nil => rfl
      | cons name rest => rfl
  | cons name rest ih =>
    cases node with
    | leaf old => cases h
    | branch children =>
      obtain ⟨below, rfl, hBelow⟩ := overwrite_branch_cases h
      cases other with
      | nil => rfl
      | cons first other =>
        by_cases hName : first = name
        · subst hName
          have hValue : below.valueAt? other = if other = rest then some value else
              (children.lookup first).bind fun child => child.valueAt? other := by
            rcases hBelow with ⟨hNone, rfl⟩ | ⟨child, hChild, hBelow⟩
            · ext found
              rw [hNone, valueAt?_chain]
              by_cases hRest : other = rest
              · subst hRest
                simp
              · rw [if_neg hRest]
                refine ⟨?_, fun hFound => nomatch hFound⟩
                rintro ⟨below, rfl, hBelow⟩
                cases below with
                | nil => simp at hRest
                | cons first below => cases hBelow
            · rw [hChild, ih hBelow other]
              rfl
          simp [Entries.lookup_insert_self, hValue]
        · simp [Entries.lookup_insert_of_ne hName, hName]

theorem overwrite_ne_empty {value : String} {path : List String} {node changed : Node}
    (h : overwrite value path node = .ok changed) : changed ≠ empty := by
  have hValue := valueAt?_overwrite h path
  rintro rfl
  rw [if_pos rfl] at hValue
  cases path <;> cases hValue

theorem filled_overwrite {value : String} {path : List String} {node changed : Node}
    (hFilled : node.Filled) (h : overwrite value path node = .ok changed) : changed.Filled := by
  induction path generalizing node changed with
  | nil =>
    cases node with
    | branch children => cases h
    | leaf old => cases h; exact filled_leaf value
  | cons name rest ih =>
    cases node with
    | leaf old => cases h
    | branch children =>
      obtain ⟨below, rfl, hBelow⟩ := overwrite_branch_cases h
      rcases hBelow with ⟨-, rfl⟩ | ⟨child, hChild, hBelow⟩
      · exact hFilled.insert (chain_ne_empty (by simp [empty]) rest)
          ((filled_leaf value).chain (by simp [empty]) rest) name
      · exact hFilled.insert (overwrite_ne_empty hBelow)
          (ih (filled_branch_iff.mp hFilled name child hChild).2 hBelow) name

/-- What stands in the way of an overwrite that fails: a leaf above the path or a branch at its
end. -/
theorem overwrite_eq_error {value : String} {path : List String} {node : Node}
    {obstacle : Obstacle} (h : overwrite value path node = .error obstacle) :
    (∃ above rest old, rest ≠ [] ∧ path = above ++ rest ∧
        node.get? above = some (leaf old) ∧ obstacle = .leafAt above) ∨
      ∃ children, node.get? path = some (branch children) ∧ obstacle = .branchAt path := by
  induction path generalizing node obstacle with
  | nil =>
    cases node with
    | leaf old => cases h
    | branch children =>
      cases h
      exact .inr ⟨children, rfl, rfl⟩
  | cons name rest ih =>
    cases node with
    | leaf old =>
      cases h
      exact .inl ⟨[], name :: rest, old, by simp, rfl, rfl, rfl⟩
    | branch children =>
      rw [overwrite_branch_cons] at h
      split at h
      · cases h
      next child hChild =>
        split at h
        · cases h
        next below hBelow =>
          cases h
          rcases ih hBelow with ⟨above, rest, old, hRest, rfl, hOld, rfl⟩ |
              ⟨children, hFound, rfl⟩
          · exact .inl ⟨name :: above, rest, old, hRest, rfl, by simpa [hChild] using hOld, rfl⟩
          · exact .inr ⟨children, by simpa [hChild] using hFound, rfl⟩

/-- A path can be overwritten unless it clashes with a path that has a value. -/
theorem exists_overwrite_iff {value : String} {path : List String} {node : Node}
    (hFilled : node.Filled) (hPath : path ≠ []) :
    (∃ changed, overwrite value path node = .ok changed) ↔
      ∀ other found, node.valueAt? other = some found → ¬ Path.Clashes path other := by
  constructor
  · rintro ⟨changed, hChanged⟩ other found hFound hClash
    have hOther : changed.valueAt? other = some found := by
      rw [valueAt?_overwrite hChanged, if_neg hClash.1.symm, hFound]
    have hValue : changed.valueAt? path = some value := by
      rw [valueAt?_overwrite hChanged, if_pos rfl]
    exact not_clashes hValue hOther hClash
  · intro hRoom
    cases h : overwrite value path node with
    | ok changed => exact ⟨changed, rfl⟩
    | error obstacle =>
      rcases overwrite_eq_error h with ⟨above, rest, old, hRest, rfl, hOld, -⟩ |
          ⟨children, hFound, -⟩
      · refine absurd ⟨?_, .inr (List.prefix_append above rest)⟩
          (hRoom above old (valueAt?_eq_some_iff.mpr hOld))
        simpa using hRest
      · have hNe : branch children ≠ empty := fun hEmpty =>
          hPath (hFilled path (hEmpty ▸ hFound))
        obtain ⟨below, old, hOld⟩ := (hFilled.get? hFound).exists_value hNe
        have hBelow : below ≠ [] := by
          rintro rfl
          cases hOld
        have hValue : node.valueAt? (path ++ below) = some old := by
          rw [valueAt?_append, hFound]
          exact hOld
        refine absurd ⟨?_, .inl (List.prefix_append path below)⟩ (hRoom _ old hValue)
        simpa using hBelow

end ConfigStore.Node
