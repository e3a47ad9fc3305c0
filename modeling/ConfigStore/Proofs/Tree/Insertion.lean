import ConfigStore.Proofs.Tree.Assignment
import Mathlib.Data.List.Pairwise

/-!
# Insertions into a tree

* `Tree.atomic_assign`: an assignment that fails changes nothing.
* `Tree.valueAt?_insert`, `Tree.filled_insert`: an insertion sets the value at its path and
  leaves no empty branch behind.
* `Tree.exists_insert_iff`: which paths have room.
* `Tree.insertAll` inserts a list of values; of the values of a path the last one is found
  (`Tree.valueAt?_insertAll_eq`). It fails if and only if two paths clash
  (`Tree.exists_insertAll_iff`). Values that all come from one whole never get in each other's
  way (`Tree.exists_insertAll`), so that a tree is rebuilt from its values in whatever order they
  come (`Tree.insertAll_empty`).
-/

namespace ConfigStore.Tree

variable {tree changed : Tree} {path : List String} {value : String}

/-- An assignment that fails leaves the tree as it was. -/
theorem atomic_assign (tree : Tree) (path : List String) (value : String) :
    (tree.assign path value).Atomic tree := by
  intro error hError
  cases hOutcome : (tree.root.assign path value).outcome with
  | ok done =>
    rw [assign, hOutcome] at hError
    cases hError
  | error obstacle => exact Tree.ext rfl (Node.atomic_assign tree.ordered path value _ hOutcome)

theorem insert_eq_ok_iff :
    tree.insert path value = .ok changed ↔
      path ≠ [] ∧ Node.overwrite value path tree.root = .ok changed.root ∧
        changed.separator = tree.separator := by
  have hPut : path ≠ [] ∧ Node.overwrite value path tree.root = .ok changed.root ↔
      tree.root.put path value = .ok changed.root := by
    rw [Node.put_eq_overwrite]
    split
    next h => simp [h]
    next h => simp [h]
  rw [← and_assoc, hPut, insert, Node.put, Change.committed, Change.committed, assign]
  cases (tree.root.assign path value).outcome with
  | error obstacle => simp
  | ok done =>
    constructor
    · intro h
      cases h
      exact ⟨rfl, rfl⟩
    · rintro ⟨hRoot, hSeparator⟩
      exact congrArg Except.ok (Tree.ext hSeparator.symm (Except.ok.inj hRoot))

theorem insert_eq_error {error : Error} (h : tree.insert path value = .error error) :
    ∃ obstacle, tree.root.put path value = .error obstacle ∧
      error = obstacle.toError tree.separator := by
  rw [insert, Change.committed, assign] at h
  rw [Node.put, Change.committed]
  cases hOutcome : (tree.root.assign path value).outcome with
  | ok done =>
    rw [hOutcome] at h
    cases h
  | error obstacle =>
    rw [hOutcome] at h
    cases h
    exact ⟨obstacle, rfl, rfl⟩

theorem separator_insert (h : tree.insert path value = .ok changed) :
    changed.separator = tree.separator :=
  (insert_eq_ok_iff.mp h).2.2

theorem valueAt?_insert (h : tree.insert path value = .ok changed) (other : List String) :
    changed.root.valueAt? other = if other = path then some value else tree.root.valueAt? other :=
  Node.valueAt?_overwrite (insert_eq_ok_iff.mp h).2.1 other

theorem filled_insert (hFilled : tree.root.Filled) (h : tree.insert path value = .ok changed) :
    changed.root.Filled :=
  Node.filled_overwrite hFilled (insert_eq_ok_iff.mp h).2.1

/-- The top of a tree has no value. -/
@[simp] theorem valueAt?_nil (tree : Tree) : tree.root.valueAt? [] = none := by
  have hBranch := tree.rootIsBranch
  rwa [← Node.isNone_valueAt?_nil, Option.isNone_iff_eq_none] at hBranch

@[simp] theorem valueAt?_empty (separator : Char) (path : List String) :
    (empty separator).root.valueAt? path = none := by
  cases path <;> rfl

theorem exists_insert_of_overwrite {root : Node} (hPath : path ≠ [])
    (h : Node.overwrite value path tree.root = .ok root) :
    ∃ changed, tree.insert path value = .ok changed ∧ changed.root = root := by
  have hPut : tree.root.put path value = .ok root := by
    rw [Node.put_eq_overwrite, if_neg hPath, h]
  obtain ⟨-, -, rfl⟩ := Except.map_eq_ok_iff.mp hPut
  exact ⟨(tree.assign path value).state, insert_eq_ok_iff.mpr ⟨hPath, h, rfl⟩, rfl⟩

/-- A path has room unless it is empty or clashes with a path that has a value. -/
theorem exists_insert_iff (hFilled : tree.root.Filled) :
    (∃ changed, tree.insert path value = .ok changed) ↔
      path ≠ [] ∧ ∀ other found, tree.root.valueAt? other = some found →
        ¬ Path.Clashes path other := by
  constructor
  · rintro ⟨changed, h⟩
    obtain ⟨hPath, hRoot, -⟩ := insert_eq_ok_iff.mp h
    exact ⟨hPath, (Node.exists_overwrite_iff hFilled hPath).mp ⟨_, hRoot⟩⟩
  · rintro ⟨hPath, hRoom⟩
    obtain ⟨root, hRoot⟩ : ∃ root, Node.overwrite value path tree.root = .ok root :=
      (Node.exists_overwrite_iff hFilled hPath).mpr hRoom
    obtain ⟨changed, hChanged, -⟩ := exists_insert_of_overwrite hPath hRoot
    exact ⟨changed, hChanged⟩

/-- Trees without empty branches are the same if their values are. -/
theorem eq_of_valueAt?_eq {a b : Tree} (hSeparator : a.separator = b.separator)
    (hFilled : a.root.Filled) (hFilled' : b.root.Filled)
    (h : ∀ path, a.root.valueAt? path = b.root.valueAt? path) : a = b :=
  Tree.ext hSeparator (Node.eq_of_valueAt?_eq a.ordered b.ordered hFilled hFilled' h)

/-! ## Lists of values -/

/-- Insert values one after the other. -/
def insertAll (tree : Tree) (entries : List (List String × String)) : Except Error Tree :=
  entries.foldlM (fun tree entry => tree.insert entry.1 entry.2) tree

theorem insertAll_cons (tree : Tree) (entry : List String × String)
    (rest : List (List String × String)) :
    tree.insertAll (entry :: rest) = (tree.insert entry.1 entry.2).bind (·.insertAll rest) := rfl

theorem insertAll_append (tree : Tree) (entries rest : List (List String × String)) :
    tree.insertAll (entries ++ rest) = (tree.insertAll entries).bind (·.insertAll rest) :=
  List.foldlM_append

theorem insertAll_cons_eq_ok_iff {tree changed : Tree} {entry : List String × String}
    {rest : List (List String × String)} :
    tree.insertAll (entry :: rest) = .ok changed ↔
      ∃ next, tree.insert entry.1 entry.2 = .ok next ∧ next.insertAll rest = .ok changed := by
  rw [insertAll_cons]
  exact Except.bind_eq_ok_iff

theorem separator_insertAll {tree changed : Tree} {entries : List (List String × String)}
    (h : tree.insertAll entries = .ok changed) : changed.separator = tree.separator := by
  induction entries generalizing tree with
  | nil => cases h; rfl
  | cons entry rest ih =>
    obtain ⟨next, hNext, hRest⟩ := insertAll_cons_eq_ok_iff.mp h
    exact (ih hRest).trans (separator_insert hNext)

theorem filled_insertAll {tree changed : Tree} {entries : List (List String × String)}
    (hFilled : tree.root.Filled) (h : tree.insertAll entries = .ok changed) :
    changed.root.Filled := by
  induction entries generalizing tree with
  | nil => cases h; exact hFilled
  | cons entry rest ih =>
    obtain ⟨next, hNext, hRest⟩ := insertAll_cons_eq_ok_iff.mp h
    exact ih (filled_insert hFilled hNext) hRest

theorem ne_nil_of_insertAll {tree changed : Tree} {entries : List (List String × String)}
    (h : tree.insertAll entries = .ok changed) : ∀ entry ∈ entries, entry.1 ≠ [] := by
  induction entries generalizing tree with
  | nil => simp
  | cons entry rest ih =>
    obtain ⟨next, hNext, hRest⟩ := insertAll_cons_eq_ok_iff.mp h
    exact List.forall_mem_cons.mpr ⟨(insert_eq_ok_iff.mp hNext).1, ih hRest⟩

/-- Of the values inserted at a path the last one is found, or else the value from before. -/
theorem valueAt?_insertAll_eq {tree changed : Tree} {entries : List (List String × String)}
    (h : tree.insertAll entries = .ok changed) (path : List String) :
    changed.root.valueAt? path =
      (entries.reverse.lookup path).or (tree.root.valueAt? path) := by
  induction entries generalizing tree with
  | nil => cases h; rfl
  | cons entry rest ih =>
    obtain ⟨next, hNext, hRest⟩ := insertAll_cons_eq_ok_iff.mp h
    rw [ih hRest, valueAt?_insert hNext, Entries.lookup_reverse_cons, Option.or_assoc]
    congr 1
    split <;> rfl

/-- What is found after insertions was there before or was inserted. -/
theorem valueAt?_insertAll {tree changed : Tree} {entries : List (List String × String)}
    (h : tree.insertAll entries = .ok changed) {path : List String} {value : String}
    (hValue : changed.root.valueAt? path = some value) :
    tree.root.valueAt? path = some value ∨ (path, value) ∈ entries := by
  rw [valueAt?_insertAll_eq h, Option.or_eq_some_iff] at hValue
  rcases hValue with hInserted | ⟨-, hBefore⟩
  · exact .inr (List.mem_reverse.mp (Entries.mem_of_lookup_eq_some hInserted))
  · exact .inl hBefore

/-- Values can all be inserted unless the path of one clashes with that of another one or with a
path that has a value already. -/
theorem exists_insertAll_iff {tree : Tree} {entries : List (List String × String)}
    (hFilled : tree.root.Filled) (hPaths : ∀ entry ∈ entries, entry.1 ≠ []) :
    (∃ changed, tree.insertAll entries = .ok changed) ↔
      (∀ entry ∈ entries, ∀ other found, tree.root.valueAt? other = some found →
        ¬ Path.Clashes entry.1 other) ∧
      entries.Pairwise fun entry other => ¬ Path.Clashes entry.1 other.1 := by
  induction entries generalizing tree with
  | nil => exact iff_of_true ⟨tree, rfl⟩ ⟨by simp, .nil⟩
  | cons entry rest ih =>
    rw [List.forall_mem_cons] at hPaths
    rw [List.forall_mem_cons, List.pairwise_cons]
    constructor
    · rintro ⟨changed, hChanged⟩
      obtain ⟨next, hNext, hRest⟩ := insertAll_cons_eq_ok_iff.mp hChanged
      have hRoom := ((exists_insert_iff hFilled).mp ⟨next, hNext⟩).2
      obtain ⟨hApart, hPairwise⟩ := (ih (filled_insert hFilled hNext) hPaths.2).mp ⟨_, hRest⟩
      have hValue := valueAt?_insert hNext
      refine ⟨⟨hRoom, fun later hLater other found hFound hClash => ?_⟩,
        fun later hLater hClash => ?_, hPairwise⟩
      · -- the first value is inserted at another path, or it would clash as well
        by_cases hEq : other = entry.1
        · exact hApart later hLater _ _ ((hValue _).trans (if_pos hEq)) hClash
        · exact hApart later hLater _ _ ((hValue _).trans ((if_neg hEq).trans hFound)) hClash
      · exact hApart later hLater _ _ ((hValue _).trans (if_pos rfl)) hClash.symm
    · rintro ⟨⟨hRoom, hApart⟩, hFirst, hPairwise⟩
      obtain ⟨next, hNext⟩ : ∃ next, tree.insert entry.1 entry.2 = .ok next :=
        (exists_insert_iff hFilled).mpr ⟨hPaths.1, hRoom⟩
      have hRest : ∀ later ∈ rest, ∀ other found, next.root.valueAt? other = some found →
          ¬ Path.Clashes later.1 other := by
        intro later hLater other found hFound hClash
        rw [valueAt?_insert hNext] at hFound
        split at hFound
        next hEq =>
          rw [hEq] at hClash
          exact hFirst later hLater hClash.symm
        · exact hApart later hLater other found hFound hClash
      obtain ⟨changed, hChanged⟩ :=
        (ih (filled_insert hFilled hNext) hPaths.2).mpr ⟨hRest, hPairwise⟩
      exact ⟨changed, insertAll_cons_eq_ok_iff.mpr ⟨next, hNext, hChanged⟩⟩

/-- Values make up a tree unless two of their paths clash, in whatever order they come. -/
theorem exists_insertAll_empty_iff {separator : Char} {entries : List (List String × String)}
    (hPaths : ∀ entry ∈ entries, entry.1 ≠ []) :
    (∃ tree, (empty separator).insertAll entries = .ok tree) ↔
      ∀ entry ∈ entries, ∀ other ∈ entries, ¬ Path.Clashes entry.1 other.1 := by
  rw [exists_insertAll_iff Node.filled_empty hPaths]
  constructor
  · rintro ⟨-, hPairwise⟩ entry hEntry other hOther
    have : Std.Symm fun entry other : List String × String => ¬ Path.Clashes entry.1 other.1 :=
      ⟨fun _ _ h hClash => h hClash.symm⟩
    exact hPairwise.forall_of_forall (fun _ _ hClash => hClash.1 rfl) hEntry hOther
  · intro hApart
    exact ⟨by simp, List.pairwise_of_forall_mem_list hApart⟩

/-- Insertions at paths that are not empty only fail for a conflict. -/
theorem insert_eq_pathConflict {error : Error} (hPath : path ≠ [])
    (h : tree.insert path value = .error error) :
    ∃ place message, error = .pathConflict place message := by
  obtain ⟨obstacle, hPut, rfl⟩ := insert_eq_error h
  rw [Node.put_eq_overwrite, if_neg hPath] at hPut
  rcases Node.overwrite_eq_error hPut with ⟨above, -, -, -, -, -, rfl⟩ | ⟨-, -, rfl⟩
  · exact ⟨_, _, rfl⟩
  · exact ⟨_, _, rfl⟩

theorem insertAll_eq_pathConflict {tree : Tree} {entries : List (List String × String)}
    {error : Error} (hPaths : ∀ entry ∈ entries, entry.1 ≠ [])
    (h : tree.insertAll entries = .error error) :
    ∃ place message, error = .pathConflict place message := by
  induction entries generalizing tree with
  | nil => cases h
  | cons entry rest ih =>
    rw [List.forall_mem_cons] at hPaths
    rw [insertAll_cons] at h
    cases hNext : tree.insert entry.1 entry.2 with
    | error reason =>
      rw [hNext] at h
      cases h
      exact insert_eq_pathConflict hPaths.1 hNext
    | ok next =>
      rw [hNext] at h
      exact ih hPaths.2 h

/-- Values of one whole, in which no path leads through another one, can all be inserted into a
tree that holds values of it. -/
theorem exists_insertAll {whole : List String → Option String} {tree : Tree}
    {entries : List (List String × String)}
    (hApart : ∀ path value other found, whole path = some value → whole other = some found →
      ¬ Path.Clashes path other)
    (hFilled : tree.root.Filled)
    (hTree : ∀ path value, tree.root.valueAt? path = some value → whole path = some value)
    (hEntries : ∀ entry ∈ entries, entry.1 ≠ [] ∧ whole entry.1 = some entry.2) :
    ∃ changed, tree.insertAll entries = .ok changed ∧ changed.separator = tree.separator ∧
      changed.root.Filled ∧ ∀ path value, changed.root.valueAt? path = some value ↔
        tree.root.valueAt? path = some value ∨ (path, value) ∈ entries := by
  obtain ⟨changed, hChanged⟩ : ∃ changed, tree.insertAll entries = .ok changed := by
    apply (exists_insertAll_iff hFilled fun entry hEntry => (hEntries entry hEntry).1).mpr
    constructor
    · intro entry hEntry other found hFound
      exact hApart _ _ _ _ (hEntries entry hEntry).2 (hTree other found hFound)
    · apply List.pairwise_of_forall_mem_list
      intro entry hEntry other hOther
      exact hApart _ _ _ _ (hEntries entry hEntry).2 (hEntries other hOther).2
  refine ⟨changed, hChanged, separator_insertAll hChanged, filled_insertAll hFilled hChanged,
    fun path value => ⟨valueAt?_insertAll hChanged, fun h => ?_⟩⟩
  have hWhole : whole path = some value := h.elim (hTree path value) fun h => (hEntries _ h).2
  rw [valueAt?_insertAll_eq hChanged]
  cases hFound : entries.reverse.lookup path with
  | some found =>
    have hMem := List.mem_reverse.mp (Entries.mem_of_lookup_eq_some hFound)
    rw [Option.some_or, ← (hEntries _ hMem).2, hWhole]
  | none =>
    rw [Option.none_or]
    refine h.resolve_right fun hMem => ?_
    have hOther := List.lookup_eq_none_iff.mp hFound (path, value) (List.mem_reverse.mpr hMem)
    simp at hOther

/-- A tree is what comes of inserting its values. -/
theorem insertAll_empty {entries : List (List String × String)} (hFilled : tree.root.Filled)
    (h : ∀ path value, tree.root.valueAt? path = some value ↔ (path, value) ∈ entries) :
    (empty tree.separator).insertAll entries = .ok tree := by
  have hEntries : ∀ entry ∈ entries,
      entry.1 ≠ [] ∧ tree.root.valueAt? entry.1 = some entry.2 := by
    rintro ⟨path, value⟩ hEntry
    have hValue := (h path value).mpr hEntry
    refine ⟨?_, hValue⟩
    rintro rfl
    rw [valueAt?_nil] at hValue
    cases hValue
  have hFirst : (empty tree.separator).root.Filled := Node.filled_empty
  have hApart : ∀ path value other found, tree.root.valueAt? path = some value →
      tree.root.valueAt? other = some found → ¬ Path.Clashes path other :=
    fun _ _ _ _ hValue hFound => Node.not_clashes hValue hFound
  obtain ⟨changed, hChanged, hSeparator, hChangedFilled, hIff⟩ :=
    exists_insertAll hApart hFirst (by simp) hEntries
  have hEq : changed = tree := by
    refine eq_of_valueAt?_eq hSeparator hChangedFilled hFilled fun path => ?_
    ext value
    rw [hIff, valueAt?_empty, h]
    simp
  rw [hChanged, hEq]

end ConfigStore.Tree
