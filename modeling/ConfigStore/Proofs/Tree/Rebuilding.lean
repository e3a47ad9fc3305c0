import ConfigStore.Proofs.Tree.Flattening
import ConfigStore.Proofs.Tree.Restriction

/-!
# Trees and their maps

A map makes a tree, and a tree is flattened to a map.

* `Tree.ofMap_eq_insertAll`: a tree is made by inserting the values of a map under the segments
  of their keys, so that of several keys with the same segments the last one counts.
* `Tree.get?_flatten_eq_some_iff`: what a flattened tree holds if its names are clean.
* `Tree.flatten_ofMap`: which maps make a tree, and what this is flattened to.
* `Tree.ofMap_flatten_iff`: which trees are rebuilt from their maps.
* `ScopedTree.mem_flatten_iff`, `ScopedTree.ofMap_flatten`, `ScopedTree.size_flatten`: the map that
  is read at and below a path, if all names of the tree are clean.
-/

namespace ConfigStore

/-- Of the entries whose names have one image, the one with the greatest name comes last. -/
theorem Entries.lookup_reverse_map_eq_some_iff {α κ : Type} [DecidableEq κ] [BEq κ] [LawfulBEq κ]
    {entries : Entries α} (h : Sorted entries) (image : String → κ) {key : κ} {value : α} :
    (entries.map fun entry => (image entry.1, entry.2)).reverse.lookup key = some value ↔
      ∃ name, (name, value) ∈ entries ∧ image name = key ∧
        ∀ other ∈ entries, image other.1 = key → other.1 ≤ name := by
  induction entries generalizing value with
  | nil => simp
  | cons first rest ih =>
    obtain ⟨hFirst, hRest⟩ := List.pairwise_cons.mp h
    rw [List.map_cons, lookup_reverse_cons, Option.or_eq_some_iff, ih hRest]
    constructor
    · rintro (⟨name, hMem, hImage, hGreatest⟩ | ⟨hNone, hHere⟩)
      · exact ⟨name, List.mem_cons_of_mem _ hMem, hImage,
          List.forall_mem_cons.mpr ⟨fun _ => Std.le_of_lt (hFirst _ hMem), hGreatest⟩⟩
      · obtain ⟨hKey, hValue⟩ := Option.ite_none_right_eq_some.mp hHere
        refine ⟨first.1, ?_, hKey.symm, List.forall_mem_cons.mpr ⟨fun _ => Std.le_refl _, ?_⟩⟩
        · rw [← Option.some.inj hValue]
          exact List.mem_cons_self
        · intro other hOther hImage
          have hAbsent := List.lookup_eq_none_iff.mp hNone (image other.1, other.2)
            (List.mem_reverse.mpr (List.mem_map_of_mem hOther))
          exact absurd hImage.symm (bne_iff_ne.mp hAbsent)
    · rintro ⟨name, hMem, hImage, hGreatest⟩
      rcases List.mem_cons.mp hMem with rfl | hMem
      · refine .inr ⟨List.lookup_eq_none_iff.mpr ?_, by rw [if_pos hImage.symm]⟩
        intro entry hEntry
        obtain ⟨other, hOther, rfl⟩ := List.mem_map.mp (List.mem_reverse.mp hEntry)
        refine bne_iff_ne.mpr fun hKey => ?_
        -- a later entry with this image would have a greater name
        exact Std.not_le_of_gt (hFirst other hOther)
          (hGreatest other (List.mem_cons_of_mem _ hOther) hKey.symm)
      · exact .inl ⟨name, hMem, hImage, (List.forall_mem_cons.mp hGreatest).2⟩

namespace Tree

variable {tree : Tree} {map : NameMap String} {separator : Char}

/-! ## The tree of a map -/

/-- The values of a map under the segments of their keys. -/
def pathsOf (separator : Char) (map : NameMap String) : List (List String × String) :=
  map.entries.map fun entry => (Path.split separator entry.1, entry.2)

theorem foldlM_insert_split (entries : Entries String) :
    entries.foldlM (fun tree entry => tree.insert (tree.split entry.1) entry.2) tree =
      tree.insertAll (entries.map fun entry => (Path.split tree.separator entry.1, entry.2)) := by
  induction entries generalizing tree with
  | nil => rfl
  | cons first rest ih =>
    rw [List.map_cons, insertAll_cons, List.foldlM_cons]
    change (tree.insert (tree.split first.1) first.2).bind _ = _
    rw [split]
    cases hNext : tree.insert (Path.split tree.separator first.1) first.2 with
    | error error => rfl
    | ok next =>
      rw [Except.bind_ok, Except.bind_ok, ih, separator_insert hNext]

theorem ofMap_eq_insertAll (map : NameMap String) (separator : Char) :
    ofMap map separator = (empty separator).insertAll (pathsOf separator map) :=
  foldlM_insert_split map.entries

theorem mem_pathsOf {path : List String} {value : String} :
    (path, value) ∈ pathsOf separator map ↔
      ∃ key, (key, value) ∈ map.entries ∧ Path.split separator key = path := by
  rw [pathsOf, List.mem_map]
  constructor
  · rintro ⟨⟨key, found⟩, hEntry, hEq⟩
    cases hEq
    exact ⟨key, hEntry, rfl⟩
  · rintro ⟨key, hEntry, rfl⟩
    exact ⟨(key, value), hEntry, rfl⟩

/-- A map makes a tree if and only if every key has segments and those of no key lead on to those
of another one. -/
theorem exists_ofMap_iff :
    (∃ tree, ofMap map separator = .ok tree) ↔
      (∀ entry ∈ map.entries, Path.split separator entry.1 ≠ []) ∧
        ∀ entry ∈ map.entries, ∀ other ∈ map.entries,
          Path.split separator entry.1 <+: Path.split separator other.1 →
            Path.split separator entry.1 = Path.split separator other.1 := by
  rw [ofMap_eq_insertAll]
  have hPaths : (∀ entry ∈ pathsOf separator map, entry.1 ≠ []) ↔
      ∀ entry ∈ map.entries, Path.split separator entry.1 ≠ [] := by
    rw [pathsOf, List.forall_mem_map]
  have hApart : (∀ entry ∈ pathsOf separator map, ∀ other ∈ pathsOf separator map,
        ¬ Path.Clashes entry.1 other.1) ↔
      ∀ entry ∈ map.entries, ∀ other ∈ map.entries,
        Path.split separator entry.1 <+: Path.split separator other.1 →
          Path.split separator entry.1 = Path.split separator other.1 := by
    rw [pathsOf]
    simp only [List.forall_mem_map]
    constructor
    · intro h entry hEntry other hOther hPrefix
      exact Decidable.byContradiction fun hNe =>
        h entry hEntry other hOther ⟨hNe, .inl hPrefix⟩
    · rintro h entry hEntry other hOther ⟨hNe, hPrefix | hPrefix⟩
      · exact hNe (h entry hEntry other hOther hPrefix)
      · exact hNe (h other hOther entry hEntry hPrefix).symm
  constructor
  · rintro ⟨tree, hTree⟩
    have hSegments := ne_nil_of_insertAll hTree
    exact ⟨hPaths.mp hSegments, hApart.mp ((exists_insertAll_empty_iff hSegments).mp ⟨tree, hTree⟩)⟩
  · rintro ⟨hSegments, hPrefix⟩
    exact (exists_insertAll_empty_iff (hPaths.mpr hSegments)).mpr (hApart.mpr hPrefix)

/-- Of the keys with the same segments the greatest one counts. -/
theorem valueAt?_ofMap (h : ofMap map separator = .ok tree) {path : List String}
    {value : String} :
    tree.root.valueAt? path = some value ↔
      ∃ key, (key, value) ∈ map.entries ∧ Path.split separator key = path ∧
        ∀ other ∈ map.entries, Path.split separator other.1 = path → other.1 ≤ key := by
  rw [ofMap_eq_insertAll] at h
  rw [valueAt?_insertAll_eq h, valueAt?_empty, Option.or_none, pathsOf,
    Entries.lookup_reverse_map_eq_some_iff map.sorted]

theorem separator_ofMap (h : ofMap map separator = .ok tree) : tree.separator = separator :=
  separator_insertAll (ofMap_eq_insertAll map separator ▸ h)

theorem filled_ofMap (h : ofMap map separator = .ok tree) : tree.root.Filled :=
  filled_insertAll Node.filled_empty (ofMap_eq_insertAll map separator ▸ h)

theorem clean_of_valueAt?_ofMap (h : ofMap map separator = .ok tree) {path : List String}
    {value : String} (hValue : tree.root.valueAt? path = some value) :
    Path.Clean separator path := by
  obtain ⟨key, -, rfl, -⟩ := (valueAt?_ofMap h).mp hValue
  exact Path.clean_split separator key

/-! ## The map of a tree -/

/-- If all names on the way to values are clean, a flattened tree holds every value under its
key. -/
theorem get?_flatten_eq_some_iff
    (hClean : ∀ path value, tree.root.valueAt? path = some value → Path.Clean tree.separator path)
    {key value : String} :
    tree.flatten.get? key = some value ↔
      ∃ path, tree.root.valueAt? path = some value ∧ Path.join tree.separator path = key := by
  have hLeaf : ∀ leaf ∈ tree.root.leaves, tree.root.valueAt? leaf.1 = some leaf.2 :=
    fun _ hLeaf => (Node.mem_leaves_iff tree.ordered).mp hLeaf
  constructor
  · intro hValue
    obtain ⟨leaf, hMem, hKey, rfl⟩ := exists_leaf_of_get?_flatten hValue
    exact ⟨leaf.1, hLeaf leaf hMem, hKey⟩
  · rintro ⟨path, hValue, rfl⟩
    have hMem := (Node.mem_leaves_iff tree.ordered).mpr hValue
    obtain ⟨found, hFound⟩ := Option.isSome_iff_exists.mp
      (isSome_get?_flatten_iff.mpr ⟨(path, value), hMem, rfl⟩)
    obtain ⟨leaf, hOther, hKey, rfl⟩ := exists_leaf_of_get?_flatten hFound
    obtain rfl : leaf = (path, value) := eq_of_key_eq hOther hMem
      (hClean _ _ (hLeaf leaf hOther)) (hClean _ _ hValue) hKey
    exact hFound

/-- A map makes a tree if and only if every key has segments and those of no key lead on to those
of another one. Flattening the tree gives the joined segments of each key, with the value of the
greatest key that has these segments, and nothing else; so it gives the map back if all keys are
joined already. -/
theorem flatten_ofMap (map : NameMap String) (separator : Char) :
    ((∃ tree, ofMap map separator = .ok tree) ↔
      (∀ entry ∈ map.entries, Path.split separator entry.1 ≠ []) ∧
        ∀ entry ∈ map.entries, ∀ other ∈ map.entries,
          Path.split separator entry.1 <+: Path.split separator other.1 →
            Path.split separator entry.1 = Path.split separator other.1) ∧
    ∀ tree, ofMap map separator = .ok tree →
      (∀ key value, tree.flatten.get? key = some value ↔
        ∃ greatest, map.get? greatest = some value ∧
          Path.join separator (Path.split separator greatest) = key ∧
          ∀ other ∈ map.entries,
            Path.split separator other.1 = Path.split separator greatest → other.1 ≤ greatest) ∧
      ((∀ entry ∈ map.entries, Path.Joined separator entry.1) → tree.flatten = map) := by
  refine ⟨exists_ofMap_iff, fun tree hTree => ?_⟩
  have hFlatten : ∀ key value, tree.flatten.get? key = some value ↔
      ∃ greatest, map.get? greatest = some value ∧
        Path.join separator (Path.split separator greatest) = key ∧
        ∀ other ∈ map.entries,
          Path.split separator other.1 = Path.split separator greatest → other.1 ≤ greatest := by
    intro key value
    have hSeparator := separator_ofMap hTree
    rw [get?_flatten_eq_some_iff fun path found hFound =>
      hSeparator ▸ clean_of_valueAt?_ofMap hTree hFound, hSeparator]
    constructor
    · rintro ⟨path, hValue, hKey⟩
      obtain ⟨greatest, hMem, rfl, hGreatest⟩ := (valueAt?_ofMap hTree).mp hValue
      exact ⟨greatest, (Entries.lookup_eq_some_iff_mem map.sorted).mpr hMem, hKey, hGreatest⟩
    · rintro ⟨greatest, hFound, hKey, hGreatest⟩
      have hMem := (Entries.lookup_eq_some_iff_mem map.sorted).mp hFound
      exact ⟨_, (valueAt?_ofMap hTree).mpr ⟨greatest, hMem, rfl, hGreatest⟩, hKey⟩
  refine ⟨hFlatten, fun hJoined => NameMap.ext_get? fun key => ?_⟩
  have hSame : ∀ {key value}, (key, value) ∈ map.entries →
      Path.join separator (Path.split separator key) = key :=
    fun hEntry => Path.join_split_iff.mpr (hJoined _ hEntry)
  ext value
  rw [hFlatten]
  constructor
  · rintro ⟨greatest, hFound, hKey, -⟩
    have hMem := (Entries.lookup_eq_some_iff_mem map.sorted).mp hFound
    have hEq : greatest = key := by rw [← hKey, hSame hMem]
    exact hEq ▸ hFound
  · intro hFound
    have hMem := (Entries.lookup_eq_some_iff_mem map.sorted).mp hFound
    refine ⟨key, hFound, hSame hMem, fun other hOther hSegments => ?_⟩
    -- a joined key is determined by its segments
    have hEq : other.1 = key := by rw [← hSame hOther, hSegments, hSame hMem]
    exact hEq ▸ Std.le_refl key

/-- Two spellings of one path. -/
def doubled : NameMap String := .ofList [("a/b", "2"), ("a//b", "1"), ("c", "3")]

/-- The greater spelling counts, and the other one is lost. -/
theorem flatten_ofMap_doubled :
    ∃ tree, ofMap doubled '/' = .ok tree ∧ tree.flatten.get? "a/b" = some "2" ∧
      tree.flatten.get? "a//b" = none := by
  obtain ⟨hMade, hFlatten⟩ := flatten_ofMap doubled '/'
  obtain ⟨tree, hTree⟩ := hMade.mpr (by decide +kernel)
  have hGet := (hFlatten tree hTree).1
  refine ⟨tree, hTree, ?_, ?_⟩
  · exact (hGet "a/b" "2").mpr ⟨"a/b", by decide +kernel⟩
  · refine Option.eq_none_iff_forall_ne_some.mpr fun value hValue => ?_
    obtain ⟨greatest, hFound, hKey, -⟩ := (hGet "a//b" value).mp hValue
    have hMem := (Entries.lookup_eq_some_iff_mem doubled.sorted).mp hFound
    have hNone : ∀ entry ∈ doubled.entries,
        Path.join '/' (Path.split '/' entry.1) ≠ "a//b" := by decide +kernel
    exact hNone _ hMem hKey

/-- Every name of a tree in which no branch below the top is empty stands on the way to a value. -/
theorem clean_of_filled (hFilled : tree.root.Filled)
    (hClean : ∀ path value, tree.root.valueAt? path = some value → Path.Clean separator path)
    {path : List String} {node : Node} (h : tree.get? path = some node) :
    Path.Clean separator path := by
  by_cases hNode : node = .empty
  · have hPath : path = [] := hFilled path (hNode ▸ h)
    rw [hPath]
    exact fun name hName => nomatch hName
  · obtain ⟨rest, value, hValue⟩ := (hFilled.get? h).exists_value hNode
    have hBelow : tree.root.valueAt? (path ++ rest) = some value := by
      rw [Node.valueAt?_append, ← get?, h]
      exact hValue
    exact fun name hName => hClean _ _ hBelow name (List.mem_append_left rest hName)

/-- A tree is rebuilt from its map if all names on the way to values are clean and no branch below
the top is empty. -/
theorem ofMap_flatten_of_clean
    (hClean : ∀ path value, tree.root.valueAt? path = some value → Path.Clean tree.separator path)
    (hFilled : tree.root.Filled) : ofMap tree.flatten tree.separator = .ok tree := by
  rw [ofMap_eq_insertAll]
  refine insertAll_empty hFilled fun path value => ?_
  rw [mem_pathsOf]
  constructor
  · intro hValue
    have hFound := (get?_flatten_eq_some_iff hClean).mpr ⟨path, hValue, rfl⟩
    exact ⟨_, (Entries.lookup_eq_some_iff_mem tree.flatten.sorted).mp hFound,
      Path.split_join (hClean path value hValue)⟩
  · rintro ⟨key, hEntry, rfl⟩
    have hFound := (Entries.lookup_eq_some_iff_mem tree.flatten.sorted).mpr hEntry
    obtain ⟨path, hValue, rfl⟩ := (get?_flatten_eq_some_iff hClean).mp hFound
    rwa [Path.split_join (hClean path value hValue)]

/-- A tree is rebuilt from its map if and only if all of its names are clean and no branch below
the top is empty. Its map then has as many entries as the tree has values. -/
theorem ofMap_flatten_iff (tree : Tree) :
    (ofMap tree.flatten tree.separator = .ok tree ↔
      (∀ path node, tree.get? path = some node → Path.Clean tree.separator path) ∧
        tree.root.Filled) ∧
    (ofMap tree.flatten tree.separator = .ok tree → tree.flatten.size = tree.size) := by
  have hRebuilt : ofMap tree.flatten tree.separator = .ok tree ↔
      (∀ path node, tree.get? path = some node → Path.Clean tree.separator path) ∧
        tree.root.Filled := by
    constructor
    · intro h
      have hFilled := filled_ofMap h
      exact ⟨fun path node => clean_of_filled hFilled fun _ _ => clean_of_valueAt?_ofMap h, hFilled⟩
    · rintro ⟨hClean, hFilled⟩
      exact ofMap_flatten_of_clean
        (fun path value hValue => hClean path _ (Node.valueAt?_eq_some_iff.mp hValue)) hFilled
  refine ⟨hRebuilt, fun h => size_flatten_eq_iff.mpr fun leaf hLeaf other hOther => ?_⟩
  have hClean : ∀ leaf ∈ tree.root.leaves, Path.Clean tree.separator leaf.1 := fun leaf hLeaf =>
    (hRebuilt.mp h).1 leaf.1 _
      (Node.valueAt?_eq_some_iff.mp ((Node.mem_leaves_iff tree.ordered).mp hLeaf))
  exact eq_of_key_eq hLeaf hOther (hClean leaf hLeaf) (hClean other hOther)

/-- A tree with a branch whose name holds a dot. -/
def withDottedBranch (separator : Char) : Tree :=
  ⟨separator, .branch [("a.b", .branch [("c", .leaf "1")])], rfl,
    .branch (by decide) (by simpa using .branch (by decide) (by simpa using .leaf "1"))⟩

/-- The tree is rebuilt where the dot is not the separator. -/
theorem ofMap_flatten_dotted :
    ofMap (withDottedBranch '/').flatten '/' = .ok (withDottedBranch '/') ∧
      (withDottedBranch '/').flatten.size = 1 ∧
      ofMap (withDottedBranch '.').flatten '.' ≠ .ok (withDottedBranch '.') := by
  have hRebuilt : ofMap (withDottedBranch '/').flatten '/' = .ok (withDottedBranch '/') := by
    decide +kernel
  refine ⟨hRebuilt, (ofMap_flatten_iff (withDottedBranch '/')).2 hRebuilt, fun h => ?_⟩
  have hClean := ((ofMap_flatten_iff (withDottedBranch '.')).1.mp h).1 ["a.b"] _ rfl
  exact absurd (hClean "a.b" List.mem_cons_self).2 (by decide)

end Tree

/-! ## Maps of parts of a tree -/

namespace ScopedTree

variable {tree : Tree} {path : String}

theorem valueAt?_subtree_default {place : List String} {value : String} :
    (({ tree } : ScopedTree).subtree path).root.valueAt? place = some value ↔
      Path.split defaultSeparator path <+: place ∧ tree.root.valueAt? place = some value := by
  rw [valueAt?_subtree]
  refine and_iff_right_of_imp ?_
  rintro ⟨-, hValue⟩ rfl
  rw [List.append_nil] at hValue
  exact absurd (hValue.symm.trans (Tree.valueAt?_nil tree)) (by simp)

/-- Nothing lies outside of the top. -/
theorem subtree_top (hFilled : tree.root.Filled) (hSeparator : tree.separator = defaultSeparator) :
    ({ tree } : ScopedTree).subtree "" = tree := by
  refine Tree.eq_of_valueAt?_eq ((separator_subtree _ _).trans hSeparator.symm)
    (filled_subtree hFilled "") hFilled fun place => ?_
  ext value
  exact valueAt?_subtree_default.trans (and_iff_right List.nil_prefix)

variable (hClean : ∀ place value, tree.root.valueAt? place = some value →
  Path.Clean defaultSeparator place)
include hClean

theorem clean_subtree {place : List String} {value : String}
    (h : (({ tree } : ScopedTree).subtree path).root.valueAt? place = some value) :
    Path.Clean (({ tree } : ScopedTree).subtree path).separator place :=
  separator_subtree _ _ ▸ hClean place value (valueAt?_subtree_default.mp h).2

/-- The entries of the map are the values at and below the path. -/
theorem mem_flatten_iff {key value : String} :
    (key, value) ∈ (({ tree } : ScopedTree).flatten path).entries ↔
      ∃ place, Path.split defaultSeparator path <+: place ∧
        tree.root.valueAt? place = some value ∧ Path.join defaultSeparator place = key := by
  rw [flatten, ← Entries.lookup_eq_some_iff_mem (NameMap.sorted _), ← NameMap.get?,
    Tree.get?_flatten_eq_some_iff fun _ _ => clean_subtree hClean, separator_subtree]
  simp only [valueAt?_subtree_default, and_assoc]

/-- The tree is rebuilt from the map. -/
theorem ofMap_flatten (hFilled : tree.root.Filled) :
    Tree.ofMap (({ tree } : ScopedTree).flatten path) defaultSeparator =
      .ok (({ tree } : ScopedTree).subtree path) := by
  have hRebuilt := Tree.ofMap_flatten_of_clean (fun _ _ => clean_subtree hClean)
    (filled_subtree hFilled path)
  rwa [separator_subtree] at hRebuilt

/-- The map has an entry for every value at and below the path. -/
theorem size_flatten :
    (({ tree } : ScopedTree).flatten path).size =
      tree.root.leaves.countP fun leaf => Path.split defaultSeparator path <+: leaf.1 := by
  have hPart := (({ tree } : ScopedTree).subtree path).ordered
  have hLeaves : (({ tree } : ScopedTree).subtree path).root.leaves.Perm
      (tree.root.leaves.filter fun leaf => Path.split defaultSeparator path <+: leaf.1) := by
    refine (List.perm_ext_iff_of_nodup (Node.nodup_leaves hPart)
      ((Node.nodup_leaves tree.ordered).filter _)).mpr ?_
    rintro ⟨place, value⟩
    rw [Node.mem_leaves_iff hPart, valueAt?_subtree_default, List.mem_filter,
      Node.mem_leaves_iff tree.ordered, decide_eq_true_iff, and_comm]
  have hSize : (({ tree } : ScopedTree).subtree path).flatten.size =
      (({ tree } : ScopedTree).subtree path).size :=
    Tree.size_flatten_eq_iff.mpr fun leaf hLeaf other hOther =>
      Tree.eq_of_key_eq hLeaf hOther
        (clean_subtree hClean ((Node.mem_leaves_iff hPart).mp hLeaf))
        (clean_subtree hClean ((Node.mem_leaves_iff hPart).mp hOther))
  rw [flatten, hSize, Tree.size, ← Node.length_leaves, hLeaves.length_eq,
    List.countP_eq_length_filter]

end ScopedTree

end ConfigStore
