import ConfigStore.Proofs.Ini.Rewriting
import Mathlib.Algebra.Order.BigOperators.Group.Finset
import Mathlib.Algebra.Order.Group.Nat

/-!
# Which trees come back

A tree that loses no path when it is written and read has rereadable paths only.

* `Ini.begins_of_read_render`: every path that is read ends on a key that begins like one, so
  that the line of any other key is no entry.
* `Ini.rereadable_of_kept`: blanks that are lost shorten a path. As long as no path is missing,
  none can have become shorter.
* `Ini.read_render_iff`: a tree comes back if and only if all of its paths are rereadable.
-/

namespace ConfigStore.Ini

/-! ## Lines that are entries -/

/-- The key of an entry. -/
def keyOf (path : List String) : String := path.getLast?.getD ""

theorem keyOf_concat (path : List String) (name : String) : keyOf (path ++ [name]) = name := by
  simp [keyOf]

theorem beginsEntry_trim (key : String) : beginsEntry (Text.trim key) = beginsEntry key := by
  rw [beginsEntry, Text.trim, String.toList_ofList, Text.trimChars_idem, beginsEntry]

/-- The entry that is read from a line of a section ends on a key that begins like one. -/
theorem begins_of_mem_lines {group : Section}
    (hFits : ∀ value ∈ group.values, Fits (group.path ++ [value.1]) value.2) {text : List Char}
    (hText : text ∈ group.lines) {key : List String} {value : String}
    (h : Line.read text = .ok (.entry key value)) :
    ∃ name, key = [name] ∧ beginsEntry name = true := by
  rcases mem_lines hText with ⟨-, rfl⟩ | ⟨pair, hPair, rfl⟩
  · rw [Line.read_headerLine] at h
    split at h <;> cases h
  · have hKey := (hFits pair hPair).key pair.1 (by simp)
    cases hBegins : beginsEntry pair.1 with
    | false => exact absurd h (Line.read_entryLine_ne_entry hKey hBegins key value)
    | true =>
      have hName := ((hFits pair hPair).clean pair.1 (by simp)).2
      rw [Line.read_entryLine hKey hName hBegins] at h
      cases h
      exact ⟨_, rfl, (beginsEntry_trim pair.1).trans hBegins⟩

/-- Every path that is read from a written document ends on a key that begins like one. -/
theorem begins_of_read_render {tree back : Tree} (hFits : AllFit tree)
    (h : read (render tree) = .ok back) {path : List String}
    (hPath : (back.root.valueAt? path).isSome = true) : beginsEntry (keyOf path) = true := by
  obtain ⟨last, hLast, rfl⟩ := (read_render_eq_ok_iff hFits).mp h
  revert path
  refine Progress.foldlM_induction (motive := fun progress => ∀ {path : List String},
    (progress.tree.root.valueAt? path).isSome = true → beginsEntry (keyOf path) = true)
    (fun progress next text hText hNext hBefore path hPath => ?_) hLast fun hPath => ?_
  · obtain ⟨group, hGroup, hMem⟩ := List.mem_flatMap.mp hText
    rcases Progress.read_cases hNext with ⟨-, rfl⟩ | ⟨heading, -, rfl⟩ |
      ⟨key, value, tree, hLine, hTree, rfl⟩
    · exact hBefore hPath
    · exact hBefore hPath
    · obtain ⟨name, rfl, hBegins⟩ := begins_of_mem_lines
        (fun value hValue => fits_of_mem_sections hFits hGroup hValue) hMem hLine
      rw [Tree.valueAt?_insert hTree] at hPath
      split at hPath
      next hEq => rwa [hEq, keyOf_concat]
      · exact hBefore hPath
  · rw [Tree.valueAt?_empty] at hPath
    cases hPath

/-- If every key begins like one, all lines that are read are read as they were written. -/
theorem legible_of_read_render {tree back : Tree} (hFits : AllFit tree)
    (h : read (render tree) = .ok back)
    (hBegins : ∀ group ∈ sections tree, ∀ value ∈ group.values, beginsEntry value.1 = true) :
    ∀ group ∈ sections tree, group.Legible := by
  intro group hGroup
  refine ⟨fun hPath hNil => ?_, fun value hValue => fits_of_mem_sections hFits hGroup hValue,
    hBegins group hGroup⟩
  obtain ⟨last, hLast, -⟩ := (read_render_eq_ok_iff hFits).mp h
  have hHeader : Section.headerLine group.path ∈ (sections tree).flatMap Section.lines := by
    refine List.mem_flatMap.mpr ⟨group, hGroup, ?_⟩
    rw [Section.lines, if_neg hPath]
    exact List.mem_cons_self
  obtain ⟨line, hLine⟩ := Progress.exists_read_of_foldlM hLast hHeader
  rw [Line.read_headerLine, ← heading, if_pos hNil] at hLine
  cases hLine

/-! ## Characters that are lost -/

theorem extent_heading_le {path : List String} (hClean : Path.Clean separator path) :
    Path.extent (heading path) ≤ Path.extent path := by
  rw [heading, Line.segments, Path.extent_split, Path.extent_eq_countP_join hClean,
    String.toList_ofList]
  exact (Text.trimChars_sublist _).countP_le

theorem extent_trim_le (name : String) : Path.extent [Text.trim name] ≤ Path.extent [name] := by
  simpa [Path.extent, Text.trim] using (Text.trimChars_sublist name.toList).length_le

/-- Reading makes no path longer. -/
theorem extent_rereadPath_le {path : List String} {name : String}
    (hClean : Path.Clean separator path) :
    Path.extent (rereadPath (path ++ [name])) ≤ Path.extent (path ++ [name]) := by
  rw [rereadPath_concat, Path.extent_append, Path.extent_append]
  exact Nat.add_le_add (extent_heading_le hClean) (extent_trim_le name)

/-- A path that does not get shorter has no blanks to lose. -/
theorem trimmed_of_extent_le {path : List String} {name : String}
    (hClean : Path.Clean separator path)
    (h : Path.extent (path ++ [name]) ≤ Path.extent (rereadPath (path ++ [name]))) :
    Text.trimChars (Path.join separator path).toList = (Path.join separator path).toList ∧
      Text.trimChars name.toList = name.toList := by
  have hHeading := extent_heading_le hClean
  have hName := extent_trim_le name
  rw [rereadPath_concat, Path.extent_append, Path.extent_append] at h
  constructor
  · have hExtent : Path.extent path ≤ Path.extent (heading path) := by omega
    rw [heading, Line.segments, Path.extent_split, Path.extent_eq_countP_join hClean,
      String.toList_ofList] at hExtent
    refine Text.trimChars_eq_self_of_countP (fun c hc => ?_) hExtent
    have hNe : c ≠ separator := by
      rintro rfl
      exact absurd hc (by decide)
    simpa using hNe
  · have hExtent : Path.extent [name] ≤ Path.extent [Text.trim name] := by omega
    apply (Text.trimChars_sublist name.toList).eq_of_length_le
    simpa [Path.extent, Text.trim] using hExtent

/-- A map that covers a finite set from within and makes nothing larger keeps all sizes. -/
theorem size_eq_of_subset_image {α : Type} [DecidableEq α] {all : Finset α} {f : α → α}
    {size : α → Nat} (hCover : all ⊆ all.image f) (hLe : ∀ a ∈ all, size (f a) ≤ size a)
    {a : α} (ha : a ∈ all) : size (f a) = size a := by
  have hImage : all = all.image f :=
    Finset.eq_of_subset_of_card_le hCover Finset.card_image_le
  have hInjective : Set.InjOn f all :=
    Finset.injOn_of_card_image_eq (congrArg Finset.card hImage.symm)
  have hSum : ∑ a ∈ all, size a = ∑ a ∈ all, size (f a) := by
    conv_lhs => rw [hImage]
    exact Finset.sum_image hInjective
  by_contra hNe
  have hLess := Finset.sum_lt_sum hLe ⟨a, ha, Nat.lt_of_le_of_ne (hLe a ha) hNe⟩
  omega

/-! ## Trees that lose no path -/

/-- Every path of `tree` is rereadable or still there in `back`. -/
def Kept (tree back : Tree) : Prop :=
  ∀ path value, tree.root.valueAt? path = some value →
    rereadable path = true ∨ (back.root.valueAt? path).isSome = true

variable {tree back : Tree}

theorem legible_of_kept (hFits : AllFit tree) (h : read (render tree) = .ok back)
    (hKept : Kept tree back) : ∀ group ∈ sections tree, group.Legible := by
  apply legible_of_read_render hFits h
  intro group hGroup pair hPair
  rcases hKept _ _ (valueAt?_of_mem_sections hGroup hPair) with hReread | hBack
  · exact (rereadable_concat_iff.mp hReread).2.2
  · have hBegins := begins_of_read_render hFits h hBack
    rwa [keyOf_concat] at hBegins

/-- A path that is still there was read from the lines of some path of the tree. -/
theorem exists_rereadPath_of_kept (hFits : AllFit tree) (h : read (render tree) = .ok back)
    (hKept : Kept tree back) {path : List String} {value : String}
    (hPath : tree.root.valueAt? path = some value) :
    ∃ other found, tree.root.valueAt? other = some found ∧ rereadPath other = path := by
  rcases hKept path value hPath with hReread | hBack
  · obtain ⟨group, hGroup, pair, hPair, hEq⟩ := valueAt?_eq_some_iff_mem_sections.mp hPath
    cases hEq
    exact ⟨_, _, hPath, rereadPath_eq_self (clean_of_mem_sections hFits hGroup) hReread⟩
  · obtain ⟨found, hFound⟩ := Option.isSome_iff_exists.mp hBack
    have hInserted := (read_render_of_legible hFits (legible_of_kept hFits h hKept)).mp h
    rcases Tree.valueAt?_insertAll hInserted hFound with hEmpty | hEntry
    · rw [Tree.valueAt?_empty] at hEmpty
      cases hEmpty
    · obtain ⟨entry, hEntry, hEq⟩ := List.mem_map.mp hEntry
      rw [reread, Prod.mk.injEq] at hEq
      exact ⟨entry.1, entry.2, mem_entries_iff.mp hEntry, hEq.1⟩

/-- If no path is missing after a tree was written and read, all of its paths are rereadable. -/
theorem rereadable_of_kept (hFits : AllFit tree) (h : read (render tree) = .ok back)
    (hKept : Kept tree back) {path : List String} {value : String}
    (hPath : tree.root.valueAt? path = some value) : rereadable path = true := by
  obtain ⟨paths, hMem⟩ := Node.exists_paths tree.ordered
  have hCover : paths ⊆ paths.image rereadPath := by
    intro path hPath
    obtain ⟨value, hValue⟩ := (hMem path).mp hPath
    obtain ⟨other, found, hOther, hEq⟩ := exists_rereadPath_of_kept hFits h hKept hValue
    exact Finset.mem_image.mpr ⟨other, (hMem other).mpr ⟨found, hOther⟩, hEq⟩
  have hLe : ∀ path ∈ paths, Path.extent (rereadPath path) ≤ Path.extent path := by
    intro path hPath
    obtain ⟨value, hValue⟩ := (hMem path).mp hPath
    obtain ⟨group, hGroup, pair, hPair, hEq⟩ := valueAt?_eq_some_iff_mem_sections.mp hValue
    cases hEq
    exact extent_rereadPath_le (clean_of_mem_sections hFits hGroup)
  obtain ⟨group, hGroup, pair, hPair, hEq⟩ := valueAt?_eq_some_iff_mem_sections.mp hPath
  cases hEq
  have hExtent := size_eq_of_subset_image hCover hLe ((hMem _).mpr ⟨_, hPath⟩)
  obtain ⟨hHeader, hKey⟩ :=
    trimmed_of_extent_le (clean_of_mem_sections hFits hGroup) hExtent.ge
  have hBegins := (legible_of_kept hFits h hKept group hGroup).begins pair hPair
  exact rereadable_concat_iff.mpr ⟨hHeader, hKey, hBegins⟩

/-- A tree comes back if and only if all of its paths are rereadable. -/
theorem read_render_iff (hFits : AllFit tree) (hFilled : tree.root.Filled)
    (hSeparator : tree.separator = separator) :
    read (render tree) = .ok tree ↔
      ∀ path value, tree.root.valueAt? path = some value → rereadable path = true := by
  refine ⟨fun h path value hValue => ?_, read_render hFits hFilled hSeparator⟩
  refine rereadable_of_kept hFits h (fun other found hFound => .inr ?_) hValue
  rw [hFound, Option.isSome_some]

end ConfigStore.Ini
