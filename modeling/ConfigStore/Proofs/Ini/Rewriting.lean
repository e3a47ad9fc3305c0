import ConfigStore.Proofs.Ini.Document

/-!
# Reading what was written

A tree that was read from a document is written and read again.

* `Ini.reread` is what becomes of an entry on the way, as long as its lines are read as a header
  and an entry.
* `Ini.rereadable` tells which paths are read as they were written.
* `Ini.read_render`: a tree of rereadable paths comes back.
-/

namespace ConfigStore.Ini

/-- The segments that are read from the header written for a path. -/
def heading (path : List String) : List String :=
  Line.segments (Path.join separator path).toList

/-- The path that is read from the header and the line written for an entry. -/
def rereadPath (path : List String) : List String :=
  heading path.dropLast ++ path.getLast?.toList.map Text.trim

/-- The entry that is read from the header and the line written for an entry. -/
def reread (entry : List String × String) : List String × String :=
  (rereadPath entry.1, Text.trim entry.2)

/-- Whether the header and the line written for a path are read as the path: blanks around
them are lost, and a line that does not begin like an entry is none. -/
def rereadable (path : List String) : Bool :=
  let header := (Path.join separator path.dropLast).toList
  let key := path.getLast?.getD ""
  Text.trimChars header = header && Text.trimChars key.toList = key.toList && beginsEntry key

theorem rereadable_concat_iff {path : List String} {name : String} :
    rereadable (path ++ [name]) = true ↔
      Text.trimChars (Path.join separator path).toList = (Path.join separator path).toList ∧
        Text.trimChars name.toList = name.toList ∧ beginsEntry name = true := by
  simp [rereadable, and_assoc]

theorem rereadPath_concat (path : List String) (name : String) :
    rereadPath (path ++ [name]) = heading path ++ [Text.trim name] := by
  simp [rereadPath]

/-- A header without blanks around it is read as the path it was written for. -/
theorem heading_eq_self {path : List String} (hClean : Path.Clean separator path)
    (hTrim : Text.trimChars (Path.join separator path).toList =
      (Path.join separator path).toList) : heading path = path := by
  rw [heading, Line.segments, hTrim, String.ofList_toList, Path.split_join hClean]

theorem rereadPath_eq_self {path : List String} {name : String}
    (hClean : Path.Clean separator path) (h : rereadable (path ++ [name]) = true) :
    rereadPath (path ++ [name]) = path ++ [name] := by
  obtain ⟨hHeader, hKey, -⟩ := rereadable_concat_iff.mp h
  rw [rereadPath_concat, heading_eq_self hClean hHeader, Text.trim, hKey, String.ofList_toList]

/-! ## Reading sections -/

/-- The empty lines between sections do not matter. -/
theorem foldlM_read_intercalate (groups : List (List (List Char))) (progress : Progress) :
    ([[]].intercalate groups).foldlM Progress.read progress =
      groups.flatten.foldlM Progress.read progress := by
  induction groups generalizing progress with
  | nil => rfl
  | cons first rest ih =>
    cases rest with
    | nil => simp
    | cons second rest =>
      rw [List.intercalate_cons_cons, List.flatten_cons, List.append_assoc, List.foldlM_append,
        List.foldlM_append]
      apply bind_congr
      intro next
      rw [List.singleton_append, List.foldlM_cons]
      exact ih next

/-- Reading a written document is going on over the lines of its sections. -/
theorem read_render_eq_ok_iff {tree back : Tree} (hFits : AllFit tree) :
    read (render tree) = .ok back ↔
      ∃ last, ((sections tree).flatMap Section.lines).foldlM Progress.read {} = .ok last ∧
        last.tree = back := by
  rw [read_eq_ok_iff, lines_render hFits, writtenLines, foldlM_read_intercalate,
    ← List.flatMap_def]

/-- The lines of entries have the effect of inserting what is read from the entries. -/
theorem foldlM_read_entryLines (tree : Tree) {path : List String}
    {values : List (String × String)} (hFits : ∀ value ∈ values, Fits (path ++ [value.1]) value.2)
    (hBegins : ∀ value ∈ values, beginsEntry value.1 = true) :
    (values.map Section.entryLine).foldlM Progress.read ⟨heading path, tree⟩ =
      ((tree.insertAll (values.map fun value => reread (path ++ [value.1], value.2))).map
        (Progress.mk (heading path))).mapError .entry := by
  induction values generalizing tree with
  | nil => rfl
  | cons first rest ih =>
    have hFirst := hFits first List.mem_cons_self
    have hLine : Line.read (Section.entryLine first) =
        .ok (.entry [Text.trim first.1] (Text.trim first.2)) :=
      Line.read_entryLine (hFirst.key _ (by simp)) (hFirst.clean _ (by simp)).2
        (hBegins first List.mem_cons_self)
    rw [List.map_cons, List.foldlM_cons, List.map_cons, Tree.insertAll_cons, reread,
      rereadPath_concat, Progress.read_of_entry hLine]
    cases tree.insert (heading path ++ [Text.trim first.1]) (Text.trim first.2) with
    | error error => rfl
    | ok next =>
      have hRest := ih next
        (fun value hValue => hFits value (List.mem_cons_of_mem _ hValue))
        fun value hValue => hBegins value (List.mem_cons_of_mem _ hValue)
      simpa only [Except.ok_map, Except.ok_mapError, Except.bind_ok, Except.ok_bind] using hRest

/-- What has to hold for all lines of a section to be read as they were written. -/
structure Section.Legible (group : Section) : Prop where
  header : group.path ≠ [] → heading group.path ≠ []
  fits : ∀ value ∈ group.values, Fits (group.path ++ [value.1]) value.2
  begins : ∀ value ∈ group.values, beginsEntry value.1 = true

theorem foldlM_read_lines {group : Section} (h : group.Legible) {progress : Progress}
    (hFirst : group.path = [] → progress.heading = []) :
    group.lines.foldlM Progress.read progress =
      ((progress.tree.insertAll (group.entries.map reread)).map
        (Progress.mk (heading group.path))).mapError .entry := by
  have hEntries : group.entries.map reread =
      group.values.map fun value => reread (group.path ++ [value.1], value.2) := by
    rw [Section.entries, List.map_map]
    rfl
  have hLines := foldlM_read_entryLines progress.tree h.fits h.begins
  rw [Section.lines, List.foldlM_append, hEntries, ← hLines]
  by_cases hPath : group.path = []
  · have hHeading : heading group.path = progress.heading := by
      rw [hFirst hPath, hPath]
      rfl
    rw [if_pos hPath, hHeading]
    rfl
  · have hHeader : Line.read (Section.headerLine group.path) =
        .ok (.header (heading group.path)) := by
      rw [Line.read_headerLine, ← heading, if_neg (h.header hPath)]
    rw [if_neg hPath, List.foldlM_cons, Progress.read_of_header hHeader]
    rfl

/-- The lines of sections have the effect of inserting what is read from their entries. -/
theorem foldlM_read_sections (progress : Progress) {groups : List Section}
    (h : ∀ group ∈ groups, group.Legible)
    (hFirst : ∀ group ∈ groups.head?, group.path = [] → progress.heading = [])
    (hTail : ∀ group ∈ groups.tail, group.path ≠ []) :
    ((groups.flatMap Section.lines).foldlM Progress.read progress).map (·.tree) =
      (progress.tree.insertAll ((groups.flatMap Section.entries).map reread)).mapError .entry := by
  induction groups generalizing progress with
  | nil => rfl
  | cons first rest ih =>
    rw [List.flatMap_cons, List.foldlM_append, List.flatMap_cons, List.map_append,
      Tree.insertAll_append,
      foldlM_read_lines (h first List.mem_cons_self) (hFirst first rfl)]
    cases progress.tree.insertAll (first.entries.map reread) with
    | error error => rfl
    | ok next =>
      have hRest := ih ⟨heading first.path, next⟩
        (fun group hGroup => h group (List.mem_cons_of_mem _ hGroup))
        (fun group hGroup hPath => absurd hPath (hTail group (List.mem_of_mem_head? hGroup)))
        fun group hGroup => hTail group (List.mem_of_mem_tail hGroup)
      exact hRest

/-- A written document is read as what is read from its entries. -/
theorem read_render_of_legible {tree back : Tree} (hFits : AllFit tree)
    (h : ∀ group ∈ sections tree, group.Legible) :
    read (render tree) = .ok back ↔
      (Tree.empty separator).insertAll (((sections tree).flatMap Section.entries).map reread) =
        .ok back := by
  have hSections := foldlM_read_sections {} h (fun _ _ _ => rfl) fun group hGroup =>
    path_ne_nil_of_mem_tail hGroup
  rw [read_render_eq_ok_iff hFits, ← Except.map_eq_ok_iff, hSections, Except.mapError_eq_ok_iff]

/-! ## Legible sections -/

theorem legible_of_rereadable {tree : Tree} (hFits : AllFit tree) {group : Section}
    (hGroup : group ∈ sections tree)
    (h : ∀ value ∈ group.values, rereadable (group.path ++ [value.1]) = true) : group.Legible := by
  refine ⟨fun hPath => ?_, fun value hValue => fits_of_mem_sections hFits hGroup hValue,
    fun value hValue => (rereadable_concat_iff.mp (h value hValue)).2.2⟩
  obtain ⟨value, hValue⟩ := List.exists_mem_of_ne_nil _ (values_ne_nil_of_mem hGroup)
  rwa [heading_eq_self (clean_of_mem_sections hFits hGroup)
    (rereadable_concat_iff.mp (h value hValue)).1]

/-- A tree of rereadable paths comes back. -/
theorem read_render {tree : Tree} (hFits : AllFit tree) (hFilled : tree.root.Filled)
    (hSeparator : tree.separator = separator)
    (h : ∀ path value, tree.root.valueAt? path = some value → rereadable path = true) :
    read (render tree) = .ok tree := by
  have hEntry : ∀ group ∈ sections tree, ∀ value ∈ group.values,
      rereadable (group.path ++ [value.1]) = true := fun group hGroup value hValue =>
    h _ _ (valueAt?_of_mem_sections hGroup hValue)
  have hSame : ((sections tree).flatMap Section.entries).map reread =
      (sections tree).flatMap Section.entries := by
    refine (List.map_congr_left fun entry hMem => ?_).trans (List.map_id _)
    obtain ⟨group, hGroup, hMem⟩ := List.mem_flatMap.mp hMem
    obtain ⟨value, hValue, rfl⟩ := List.mem_map.mp hMem
    rw [reread, rereadPath_eq_self (clean_of_mem_sections hFits hGroup)
      (hEntry group hGroup value hValue), Text.trim,
      (fits_of_mem_sections hFits hGroup hValue).valueTrimmed, String.ofList_toList]
    rfl
  refine (read_render_of_legible hFits fun group hGroup =>
    legible_of_rereadable hFits hGroup (hEntry group hGroup)).mpr ?_
  rw [hSame, ← hSeparator]
  exact Tree.insertAll_empty hFilled fun path value => mem_entries_iff.symm

end ConfigStore.Ini
