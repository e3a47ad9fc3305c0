import ConfigStore.Proofs.Ini.Lines
import ConfigStore.Proofs.Ini.Sections
import ConfigStore.Proofs.Outcome

/-!
# Reading documents line by line

* `Ini.read_eq_ok_iff`: reading a document is going on over its lines, and a fault stands at the
  first line that cannot be read (`Ini.Progress.readFrom_eq_error_iff`).
* `Ini.sound_of_read`: every value of a document that was read fits a line (`Ini.AllFit`), and
  there are no empty branches.
* `Ini.lines_render`: the lines of a written document are those that were written.
-/

namespace ConfigStore.Ini

namespace Progress

/-- The number of the first line only matters for faults. -/
theorem readFrom_eq_ok_iff {progress last : Progress} {number : Nat} {lines : List (List Char)} :
    progress.readFrom number lines = .ok last ↔ lines.foldlM read progress = .ok last := by
  induction lines generalizing progress number with
  | nil => simp [readFrom, pure, Except.pure]
  | cons line rest ih =>
    rw [readFrom, List.foldlM_cons]
    cases progress.read line with
    | error reason => simp
    | ok next => exact ih

/-- A fault stands at a line that cannot be read behind the lines above it, all of which can. -/
theorem readFrom_eq_error_iff {progress : Progress} {number : Nat} {lines : List (List Char)}
    {fault : Fault} :
    progress.readFrom number lines = .error fault ↔
      ∃ index line before, lines[index]? = some line ∧
        (lines.take index).foldlM read progress = .ok before ∧
        before.read line = .error fault.reason ∧ fault.line = index + number := by
  induction lines generalizing progress number with
  | nil => simp [readFrom]
  | cons first rest ih =>
    rw [readFrom]
    cases hFirst : progress.read first with
    | error reason =>
      constructor
      · intro h
        cases h
        exact ⟨0, first, progress, rfl, rfl, hFirst, (Nat.zero_add number).symm⟩
      · rintro ⟨index, line, before, hLine, hBefore, hError, hNumber⟩
        cases index with
        | zero =>
          cases hLine
          cases hBefore
          obtain rfl : reason = fault.reason := Except.error.inj (hFirst.symm.trans hError)
          rw [← Nat.zero_add number, ← hNumber]
        | succ index =>
          rw [List.take_succ_cons, List.foldlM_cons, hFirst] at hBefore
          cases hBefore
    | ok next =>
      have hTake (index : Nat) : ((first :: rest).take (index + 1)).foldlM read progress =
          (rest.take index).foldlM read next := by
        rw [List.take_succ_cons, List.foldlM_cons, hFirst, Except.ok_bind]
      refine ih.trans ⟨?_, ?_⟩
      · rintro ⟨index, line, before, hLine, hBefore, hError, hNumber⟩
        exact ⟨index + 1, line, before, hLine, (hTake index).trans hBefore, hError, by omega⟩
      · rintro ⟨index, line, before, hLine, hBefore, hError, hNumber⟩
        cases index with
        | zero =>
          cases hLine
          cases hBefore
          cases hFirst.symm.trans hError
        | succ index =>
          exact ⟨index, line, before, hLine, (hTake index).symm.trans hBefore, hError, by omega⟩

theorem read_of_header {progress : Progress} {text : List Char} {path : List String}
    (h : Line.read text = .ok (.header path)) :
    progress.read text = .ok { progress with heading := path } := by
  simp only [read, h, advance, Except.ok_mapError]

theorem read_of_entry {progress : Progress} {text : List Char} {key : List String}
    {value : String} (h : Line.read text = .ok (.entry key value)) :
    progress.read text =
      ((progress.tree.insert (progress.heading ++ key) value).map fun tree =>
        { progress with tree }).mapError .entry := by
  simp only [read, h, advance]

/-- What going on over one line can do. -/
theorem read_cases {progress next : Progress} {text : List Char}
    (h : progress.read text = .ok next) :
    (Line.read text = .ok .empty ∧ next = progress) ∨
      (∃ path, Line.read text = .ok (.header path) ∧ next = { progress with heading := path }) ∨
      ∃ key value tree, Line.read text = .ok (.entry key value) ∧
        progress.tree.insert (progress.heading ++ key) value = .ok tree ∧
        next = { progress with tree } := by
  rw [read] at h
  split at h
  · cases h
  next line hLine =>
    cases line with
    | empty =>
      cases h
      exact .inl ⟨hLine, rfl⟩
    | header path =>
      cases h
      exact .inr (.inl ⟨path, hLine, rfl⟩)
    | entry key value =>
      obtain ⟨tree, hTree, rfl⟩ :=
        Except.map_eq_ok_iff.mp (Except.mapError_eq_ok_iff.mp h)
      exact .inr (.inr ⟨key, value, tree, hLine, hTree, rfl⟩)

/-- What holds of every progress on the way holds at the end. -/
theorem foldlM_induction {motive : Progress → Prop} {lines : List (List Char)}
    (step : ∀ progress next text, text ∈ lines → progress.read text = .ok next →
      motive progress → motive next)
    {progress last : Progress} (h : lines.foldlM read progress = .ok last)
    (hFirst : motive progress) : motive last := by
  induction lines generalizing progress with
  | nil => cases h; exact hFirst
  | cons text rest ih =>
    rw [List.foldlM_cons] at h
    obtain ⟨next, hNext, hRest⟩ := Except.bind_eq_ok_iff.mp h
    refine ih (fun before after other hOther => ?_) hRest
      (step _ _ _ List.mem_cons_self hNext hFirst)
    exact step before after other (List.mem_cons_of_mem _ hOther)

/-- A document is only read if each of its lines is. -/
theorem exists_read_of_foldlM {progress last : Progress} {lines : List (List Char)}
    (h : lines.foldlM read progress = .ok last) {text : List Char} (hText : text ∈ lines) :
    ∃ line, Line.read text = .ok line := by
  induction lines generalizing progress with
  | nil => cases hText
  | cons first rest ih =>
    rw [List.foldlM_cons] at h
    obtain ⟨next, hNext, hRest⟩ := Except.bind_eq_ok_iff.mp h
    rcases List.mem_cons.mp hText with rfl | hText
    · rcases read_cases hNext with ⟨hLine, -⟩ | ⟨path, hLine, -⟩ | ⟨key, value, tree, hLine, -⟩
      · exact ⟨_, hLine⟩
      · exact ⟨_, hLine⟩
      · exact ⟨_, hLine⟩
    · exact ih hRest hText

end Progress

theorem read_eq_ok_iff {text : String} {tree : Tree} :
    read text = .ok tree ↔
      ∃ last, (Text.lines text.toList).foldlM Progress.read {} = .ok last ∧ last.tree = tree := by
  rw [read, Except.map_eq_ok_iff]
  simp only [Progress.readFrom_eq_ok_iff]

/-! ## What is read -/

/-- Every value fits a line, and so does every name above it. -/
def AllFit (tree : Tree) : Prop :=
  ∀ path value, tree.root.valueAt? path = some value → Fits path value

theorem allFit_empty : AllFit (Tree.empty separator) := by
  intro path value h
  rw [Tree.valueAt?_empty] at h
  cases h

theorem AllFit.insert {tree changed : Tree} (h : AllFit tree) {path : List String}
    {value : String} (hFits : Fits path value) (hInsert : tree.insert path value = .ok changed) :
    AllFit changed := by
  intro other found hFound
  rw [Tree.valueAt?_insert hInsert] at hFound
  split at hFound
  next hEq =>
    cases hFound
    rw [hEq]
    exact hFits
  · exact h other found hFound

theorem Fits.under {path : List String} {value : String} (h : Fits path value) (hNe : path ≠ [])
    {heading : List String} (hClean : Path.Clean separator heading)
    (hLine : ∀ name ∈ heading, '\n' ∉ name.toList) : Fits (heading ++ path) value := by
  refine ⟨hClean.append h.clean, ?_, ?_, h.valueOneLine, h.valueTrimmed⟩
  · intro name hName
    rcases List.mem_append.mp hName with hName | hName
    · exact hLine name hName
    · exact h.oneLine name hName
  · rw [List.getLast?_append_of_ne_nil _ hNe]
    exact h.key

/-- What is kept between the lines of a document: the section in force could be written as a
header, and the values so far as entries. -/
structure Progress.Sound (progress : Progress) : Prop where
  clean : Path.Clean separator progress.heading
  oneLine : ∀ name ∈ progress.heading, '\n' ∉ name.toList
  fits : AllFit progress.tree
  filled : progress.tree.root.Filled
  separator_eq : progress.tree.separator = separator

theorem Progress.sound_read {progress next : Progress} {text : List Char} (hText : '\n' ∉ text)
    (h : progress.read text = .ok next) (hSound : progress.Sound) : next.Sound := by
  rcases read_cases h with ⟨-, rfl⟩ | ⟨path, hLine, rfl⟩ | ⟨key, value, tree, hLine, hTree, rfl⟩
  · exact hSound
  · obtain ⟨hClean, hOneLine⟩ := Line.oneLine_of_read_header hText hLine
    exact ⟨hClean, hOneLine, hSound.fits, hSound.filled, hSound.separator_eq⟩
  · obtain ⟨hNe, hFits⟩ := Line.fits_of_read hText hLine
    exact ⟨hSound.clean, hSound.oneLine,
      hSound.fits.insert (hFits.under hNe hSound.clean hSound.oneLine) hTree,
      Tree.filled_insert hSound.filled hTree,
      (Tree.separator_insert hTree).trans hSound.separator_eq⟩

theorem sound_of_read {text : String} {tree : Tree} (h : read text = .ok tree) :
    AllFit tree ∧ tree.root.Filled ∧ tree.separator = separator := by
  obtain ⟨last, hLast, rfl⟩ := read_eq_ok_iff.mp h
  have hSound : last.Sound := by
    refine Progress.foldlM_induction (fun progress next line hLine hRead hSound => ?_) hLast ?_
    · exact Progress.sound_read (Text.notMem_of_mem_lines hLine) hRead hSound
    · exact ⟨by simp [Path.Clean], by simp, allFit_empty, Node.filled_empty, rfl⟩
  exact ⟨hSound.fits, hSound.filled, hSound.separator_eq⟩

/-! ## The lines that are written -/

theorem fits_of_mem_sections {tree : Tree} (h : AllFit tree) {group : Section}
    (hGroup : group ∈ sections tree) {value : String × String} (hValue : value ∈ group.values) :
    Fits (group.path ++ [value.1]) value.2 :=
  h _ _ (valueAt?_of_mem_sections hGroup hValue)

/-- The path of a section is cut back where its text is split. -/
theorem clean_of_mem_sections {tree : Tree} (h : AllFit tree) {group : Section}
    (hGroup : group ∈ sections tree) : Path.Clean separator group.path := by
  obtain ⟨value, hValue⟩ := List.exists_mem_of_ne_nil _ (values_ne_nil_of_mem hGroup)
  exact fun name hName =>
    (fits_of_mem_sections h hGroup hValue).clean name (List.mem_append_left _ hName)

theorem oneLine_headerLine {path : List String} (h : ∀ name ∈ path, '\n' ∉ name.toList) :
    '\n' ∉ Section.headerLine path := by
  intro hMem
  rw [Section.headerLine, List.cons_append, List.mem_cons, List.mem_append] at hMem
  rcases hMem with hMem | hMem | hMem
  · cases hMem
  · rcases Path.mem_join hMem with hMem | ⟨name, hName, hMem⟩
    · exact absurd hMem (by decide)
    · exact h name hName hMem
  · exact absurd hMem (by decide)

theorem oneLine_entryLine {path : List String} {name value : String}
    (h : Fits (path ++ [name]) value) : '\n' ∉ Section.entryLine (name, value) := by
  intro hMem
  rw [Section.entryLine, List.mem_append, List.mem_append] at hMem
  rcases hMem with (hMem | hMem) | hMem
  · exact h.oneLine name (by simp) hMem
  · exact absurd hMem (by decide)
  · exact h.valueOneLine hMem

theorem getLast?_headerLine (path : List String) :
    (Section.headerLine path).getLast? = some ']' := by
  rw [Section.headerLine, List.getLast?_append, List.getLast?_singleton, Option.some_or]

theorem getLast?_entryLine {name value : String} (h : Text.trimChars value.toList = value.toList) :
    (Section.entryLine (name, value)).getLast? ≠ some '\r' := by
  rw [Section.entryLine, List.getLast?_append]
  cases hLast : value.toList.getLast? with
  | none =>
    have hSign : " = ".toList.getLast? = some ' ' := by decide
    rw [Option.none_or, List.getLast?_append, hSign, Option.some_or]
    decide
  | some c =>
    rw [Option.some_or]
    rintro ⟨⟩
    have hBlank := (Text.trimChars_eq_self_iff.mp h).2 '\r' hLast
    exact absurd hBlank (by decide)

/-- A written line is the one between sections, or a line of a section. -/
theorem mem_writtenLines {tree : Tree} {line : List Char} (h : line ∈ writtenLines tree) :
    line = [] ∨ ∃ group ∈ sections tree, line ∈ group.lines := by
  rcases Path.mem_intercalate h with h | ⟨lines, hLines, hMem⟩
  · exact .inl (List.mem_singleton.mp h)
  · obtain ⟨group, hGroup, rfl⟩ := List.mem_map.mp hLines
    exact .inr ⟨group, hGroup, hMem⟩

theorem mem_lines {group : Section} {line : List Char} (h : line ∈ group.lines) :
    (group.path ≠ [] ∧ line = Section.headerLine group.path) ∨
      ∃ value ∈ group.values, line = Section.entryLine value := by
  rw [Section.lines] at h
  rcases List.mem_append.mp h with h | h
  · split at h
    · cases h
    next hPath => exact .inl ⟨hPath, List.mem_singleton.mp h⟩
  · obtain ⟨value, hValue, rfl⟩ := List.mem_map.mp h
    exact .inr ⟨value, hValue, rfl⟩

/-- A written line has no line feed in it and no carriage return at its end. -/
theorem whole_of_mem_writtenLines {tree : Tree} (h : AllFit tree) {line : List Char}
    (hLine : line ∈ writtenLines tree) : '\n' ∉ line ∧ line.getLast? ≠ some '\r' := by
  rcases mem_writtenLines hLine with rfl | ⟨group, hGroup, hMem⟩
  · exact ⟨List.not_mem_nil, by simp⟩
  rcases mem_lines hMem with ⟨-, rfl⟩ | ⟨⟨name, value⟩, hValue, rfl⟩
  · rw [getLast?_headerLine]
    refine ⟨oneLine_headerLine fun name hName => ?_, by decide⟩
    obtain ⟨value, hValue⟩ := List.exists_mem_of_ne_nil _ (values_ne_nil_of_mem hGroup)
    exact (fits_of_mem_sections h hGroup hValue).oneLine name (List.mem_append_left _ hName)
  · have hFits := fits_of_mem_sections h hGroup hValue
    exact ⟨oneLine_entryLine hFits, getLast?_entryLine hFits.valueTrimmed⟩

/-- The lines of a written document are those that were written. -/
theorem lines_render {tree : Tree} (h : AllFit tree) :
    Text.lines (render tree).toList = writtenLines tree := by
  rw [render, String.toList_ofList]
  exact Text.lines_flatMap (fun line hLine => (whole_of_mem_writtenLines h hLine).1)
    fun line hLine => (whole_of_mem_writtenLines h hLine).2

end ConfigStore.Ini
