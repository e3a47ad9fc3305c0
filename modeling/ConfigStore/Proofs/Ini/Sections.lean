import ConfigStore.Ini.Document
import ConfigStore.Proofs.Tree.Leaves

/-!
# The sections of a tree

The sections of a tree list its values, grouped by the branch that they belong to.

* `Ini.sections_perm`: the entries of all sections are the leaves of the tree, and so
  `Ini.valueAt?_eq_some_iff_mem_sections`.
* `Ini.path_ne_nil_of_mem_tail`: the values without section come first.
* `Ini.values_ne_nil_of_mem`: no section is without values.
-/

namespace ConfigStore.Ini

/-- The values of a section under their full paths. -/
def Section.entries (group : Section) : List (List String × String) :=
  group.values.map fun value => (group.path ++ [value.1], value.2)

/-- A section as seen from the parent of the branch it was taken from. -/
def Section.under (name : String) (group : Section) : Section :=
  { group with path := name :: group.path }

/-- The sections of what lies at and below a node. -/
def sectionsOf (node : Node) : List Section := node.walk.filterMap Section.ofVisit?

theorem ofVisit?_under (name : String) (visit : Visit) :
    Section.ofVisit? (visit.under name) = (Section.ofVisit? visit).map (Section.under name) := by
  cases visit with
  | leaf path value => rfl
  | branch path children =>
    rw [Visit.under, Section.ofVisit?, Section.ofVisit?]
    cases Section.valuesOf children <;> rfl

theorem entries_under (name : String) (group : Section) :
    (group.under name).entries = group.entries.map (Node.leafUnder name) := by
  rw [Section.entries, Section.entries, List.map_map]
  rfl

@[simp] theorem sectionsOf_leaf (value : String) : sectionsOf (.leaf value) = [] := by
  simp [sectionsOf, Node.walk, Section.ofVisit?]

/-- The section of a branch itself comes before those below it. -/
theorem sectionsOf_branch (children : List (String × Node)) :
    sectionsOf (.branch children) =
      (Section.ofVisit? (.branch [] children)).toList ++
        children.flatMap fun child => (sectionsOf child.2).map (Section.under child.1) := by
  have hAmong (children : List (String × Node)) :
      (Node.walkAmong children).filterMap Section.ofVisit? =
        children.flatMap fun child => (sectionsOf child.2).map (Section.under child.1) := by
    induction children with
    | nil => rfl
    | cons first rest ih =>
      have hFirst : (first.2.walk.map (·.under first.1)).filterMap Section.ofVisit? =
          (sectionsOf first.2).map (Section.under first.1) := by
        rw [List.filterMap_map, sectionsOf, List.map_filterMap]
        exact List.filterMap_congr fun visit _ => ofVisit?_under first.1 visit
      rw [Node.walkAmong, List.filterMap_append, hFirst, ih, List.flatMap_cons]
  rw [sectionsOf, Node.walk, List.filterMap_cons, hAmong]
  cases Section.ofVisit? (.branch [] children) <;> rfl

/-- The entries of the section of a branch are its children with a value. -/
theorem entries_ofVisit? (path : List String) (children : List (String × Node)) :
    (Section.ofVisit? (.branch path children)).toList.flatMap Section.entries =
      children.flatMap fun child =>
        (child.2.value?.map fun value => (path ++ [child.1], value)).toList := by
  have hEntries : (Section.ofVisit? (.branch path children)).toList.flatMap Section.entries =
      (Section.valuesOf children).map fun value => (path ++ [value.1], value.2) := by
    rw [Section.ofVisit?]
    cases Section.valuesOf children with
    | nil => rfl
    | cons first rest => exact List.flatMap_singleton ..
  rw [hEntries, Section.valuesOf, List.map_filterMap, List.filterMap_eq_flatMap_toList]
  apply List.flatMap_congr
  intro child _
  cases child.2.value? <;> rfl

/-- The value of a node itself and the entries of the sections are the leaves. -/
theorem sectionsOf_perm (node : Node) :
    ((node.value?.map fun value => (([] : List String), value)).toList ++
      (sectionsOf node).flatMap Section.entries).Perm node.leaves := by
  induction node using Node.inductionOn with
  | leaf value =>
    rw [sectionsOf_leaf, Node.leaves_leaf]
    exact .refl _
  | branch children ih =>
    have hBelow : ((children.flatMap fun child =>
          (sectionsOf child.2).map (Section.under child.1)).flatMap Section.entries) =
        children.flatMap fun child =>
          ((sectionsOf child.2).flatMap Section.entries).map (Node.leafUnder child.1) := by
      rw [List.flatMap_assoc]
      apply List.flatMap_congr
      intro child _
      rw [List.flatMap_map, List.map_flatMap]
      exact List.flatMap_congr fun group _ => entries_under child.1 group
    rw [Node.value?, Option.map_none, Option.toList_none, List.nil_append, sectionsOf_branch,
      List.flatMap_append, entries_ofVisit?, hBelow, Node.leaves_branch]
    refine (List.flatMap_append_perm _ _ _).trans (List.Perm.flatMap_left _ fun child hChild => ?_)
    have hOwn : (child.2.value?.map fun value => ([] ++ [child.1], value)).toList =
        (child.2.value?.map fun value => (([] : List String), value)).toList.map
          (Node.leafUnder child.1) := by
      cases child.2.value? <;> rfl
    rw [hOwn, ← List.map_append]
    exact (ih child hChild).map (Node.leafUnder child.1)

/-- The entries of the sections are the leaves of the tree. -/
theorem sections_perm (tree : Tree) :
    ((sections tree).flatMap Section.entries).Perm tree.root.leaves := by
  have hPerm := sectionsOf_perm tree.root
  have hValue : tree.root.value? = none := tree.valueAt?_nil
  rwa [hValue] at hPerm

theorem mem_entries_iff {tree : Tree} {path : List String} {value : String} :
    (path, value) ∈ (sections tree).flatMap Section.entries ↔
      tree.root.valueAt? path = some value := by
  rw [(sections_perm tree).mem_iff, Node.mem_leaves_iff tree.ordered]

/-- The values of a tree are the values of its sections. -/
theorem valueAt?_eq_some_iff_mem_sections {tree : Tree} {path : List String} {value : String} :
    tree.root.valueAt? path = some value ↔
      ∃ group ∈ sections tree, ∃ pair ∈ group.values,
        (group.path ++ [pair.1], pair.2) = (path, value) := by
  rw [← mem_entries_iff, List.mem_flatMap]
  simp only [Section.entries, List.mem_map]

theorem valueAt?_of_mem_sections {tree : Tree} {group : Section} (hGroup : group ∈ sections tree)
    {pair : String × String} (hPair : pair ∈ group.values) :
    tree.root.valueAt? (group.path ++ [pair.1]) = some pair.2 :=
  valueAt?_eq_some_iff_mem_sections.mpr ⟨group, hGroup, pair, hPair, rfl⟩

/-- Only the first section can do without a header. -/
theorem path_ne_nil_of_mem_tail {tree : Tree} {group : Section}
    (h : group ∈ (sections tree).tail) : group.path ≠ [] := by
  have hBranch : ∃ children, tree.root = .branch children := by
    have hBranch := tree.rootIsBranch
    cases hRoot : tree.root with
    | leaf value => rw [hRoot] at hBranch; cases hBranch
    | branch children => exact ⟨children, rfl⟩
  obtain ⟨children, hRoot⟩ := hBranch
  have hBelow : ∀ other ∈ children.flatMap fun child =>
      (sectionsOf child.2).map (Section.under child.1), other.path ≠ [] := by
    intro other hOther
    obtain ⟨child, -, hMem⟩ := List.mem_flatMap.mp hOther
    obtain ⟨below, -, rfl⟩ := List.mem_map.mp hMem
    exact List.cons_ne_nil _ _
  apply hBelow group
  rw [sections, Tree.walk, ← sectionsOf, hRoot, sectionsOf_branch] at h
  cases hOwn : Section.ofVisit? (.branch [] children) with
  | none =>
    rw [hOwn] at h
    exact List.mem_of_mem_tail h
  | some own =>
    rw [hOwn] at h
    exact h

theorem values_ne_nil_of_mem {tree : Tree} {group : Section} (h : group ∈ sections tree) :
    group.values ≠ [] := by
  obtain ⟨visit, -, hVisit⟩ := List.mem_filterMap.mp h
  cases visit with
  | leaf path value => cases hVisit
  | branch path children =>
    rw [Section.ofVisit?] at hVisit
    split at hVisit
    · cases hVisit
    next hValues =>
      cases hVisit
      exact hValues

end ConfigStore.Ini
