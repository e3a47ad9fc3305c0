import ConfigStore.Ini.Document
import ConfigStore.Proofs.Ini.Kinds
import ConfigStore.Proofs.Text.Blank

/-!
# Reading the lines that are written

A written line is read in one of few ways, whatever the names and the value on it.

* `Ini.Line.read_headerLine`: a header is read as the segments of its trimmed text.
* `Ini.Line.read_entryLine`: an entry is read as its trimmed key if the key begins like an
  entry (`Ini.beginsEntry`), and as something that is no entry otherwise
  (`Ini.Line.read_entryLine_ne_entry`).
* `Ini.Fits` is what the path and the value of an entry consist of; every entry that is read
  has it (`Ini.Line.fits_of_read`).
-/

namespace ConfigStore.Ini

/-- Whether a line that begins with a key can be an entry. -/
def beginsEntry (key : String) : Bool :=
  match Text.trimChars key.toList with
  | [] => false
  | c :: _ => c ≠ ';' && c ≠ '#' && c ≠ '['

/-- What the path and the value of an entry consist of. -/
structure Fits (path : List String) (value : String) : Prop where
  clean : Path.Clean separator path
  oneLine : ∀ name ∈ path, '\n' ∉ name.toList
  key : ∀ name ∈ path.getLast?, '=' ∉ name.toList
  valueOneLine : '\n' ∉ value.toList
  valueTrimmed : Text.trimChars value.toList = value.toList

namespace Line

theorem clean_segments (text : List Char) : Path.Clean separator (segments text) :=
  Path.clean_split _ _

theorem subset_of_mem_segments {text : List Char} {name : String} (h : name ∈ segments text) :
    name.toList ⊆ text := by
  have hMem := (Path.mem_split h).2.2
  rw [String.toList_ofList] at hMem
  exact List.Subset.trans hMem (Text.trimChars_sublist text).subset

/-! ## Headers -/

theorem trimChars_headerLine (path : List String) :
    Text.trimChars (Section.headerLine path) = Section.headerLine path := by
  refine Text.trimChars_eq_self_iff.mpr ⟨?_, ?_⟩
  · intro c hc
    cases hc
    decide
  · intro c hc
    rw [Section.headerLine, List.getLast?_append, List.getLast?_singleton, Option.some_or] at hc
    cases hc
    decide

theorem read_headerLine (path : List String) :
    read (Section.headerLine path) =
      if segments (Path.join separator path).toList = [] then .error .emptySection
      else .ok (.header (segments (Path.join separator path).toList)) := by
  have hLine : Text.trimChars (Section.headerLine path) =
      '[' :: ((Path.join separator path).toList ++ [']']) := trimChars_headerLine path
  rw [read_of_bracket hLine, readHeader_concat]

/-! ## Entries -/

theorem entryLine_eq (key value : String) :
    Section.entryLine (key, value) = (key.toList ++ [' ']) ++ '=' :: ' ' :: value.toList := by
  simp [Section.entryLine]

/-- The sign that ends the key keeps the blanks of the key and of the value apart. -/
theorem trimChars_entryLine (key value : String) :
    Text.trimChars (Section.entryLine (key, value)) =
      Text.trimStart (key.toList ++ [' ']) ++ '=' :: Text.trimEnd (' ' :: value.toList) := by
  rw [entryLine_eq, Text.trimChars_append_cons (by decide)]

theorem trimChars_key (key : String) :
    Text.trimChars (key.toList ++ [' ']) = Text.trimChars key.toList :=
  Text.trimChars_append_blanks (by simpa using Text.isBlank_space) _

theorem readEntry_entryLine {key : String} (value : String) (hKey : '=' ∉ key.toList) :
    readEntry (Text.trimChars (Section.entryLine (key, value))) =
      if segments key.toList = [] then .error .emptyKey
      else .ok (.entry (segments key.toList) (String.ofList (Text.trimChars value.toList))) := by
  have hSign : '=' ∉ Text.trimStart (key.toList ++ [' ']) := by
    intro hMem
    have hMem := (List.dropWhile_suffix Text.isBlank).subset hMem
    rcases List.mem_append.mp hMem with hMem | hMem
    · exact hKey hMem
    · exact absurd hMem (by decide)
  have hSegments : segments (Text.trimStart (key.toList ++ [' '])) = segments key.toList := by
    rw [segments, Text.trimChars_trimStart, trimChars_key, segments]
  have hValue : Text.trimChars (Text.trimEnd (' ' :: value.toList)) =
      Text.trimChars value.toList := by
    rw [Text.trimChars_trimEnd, Text.trimChars_cons_blank (by decide)]
  rw [trimChars_entryLine, readEntry_append_cons hSign, hSegments, hValue]

/-- The first character of the line of an entry that is not blank. -/
theorem head?_trimChars_entryLine (key value : String) :
    (Text.trimChars (Section.entryLine (key, value))).head? =
      some ((Text.trimChars key.toList).head?.getD '=') := by
  rw [trimChars_entryLine, ← trimChars_key key, Text.head?_trimChars]
  cases Text.trimStart (key.toList ++ [' ']) <;> rfl

/-- A name without a separator is the only segment of its text, once trimmed. -/
theorem segments_name {name : String} (h : separator ∉ name.toList)
    (hNe : Text.trimChars name.toList ≠ []) :
    segments name.toList = [String.ofList (Text.trimChars name.toList)] := by
  have hClean : Path.Clean separator [String.ofList (Text.trimChars name.toList)] := by
    intro other hOther
    rw [List.mem_singleton.mp hOther, String.toList_ofList]
    refine ⟨fun hEmpty => hNe (String.ofList_eq_empty_iff.mp hEmpty), fun hMem => ?_⟩
    exact h ((Text.trimChars_sublist _).subset hMem)
  have hJoin : Path.join separator [String.ofList (Text.trimChars name.toList)] =
      String.ofList (Text.trimChars name.toList) := by
    rw [Path.join, List.map_singleton, List.intercalate_singleton, String.ofList_toList]
  rw [segments]
  conv_lhs => rw [← hJoin]
  exact Path.split_join hClean

theorem trimChars_ne_nil_of_beginsEntry {key : String} (h : beginsEntry key = true) :
    Text.trimChars key.toList ≠ [] := by
  intro hNil
  rw [beginsEntry, hNil] at h
  cases h

theorem keyed_entryLine {key : String} (value : String) (h : beginsEntry key = true) :
    Keyed (Section.entryLine (key, value)) := by
  have hHead := head?_trimChars_entryLine key value
  rw [beginsEntry] at h
  split at h
  · cases h
  next c rest hTrim =>
    rw [hTrim, List.head?_cons, Option.getD_some] at hHead
    simp only [ne_eq, decide_not, Bool.and_eq_true, Bool.not_eq_eq_eq_not, Bool.not_true,
      decide_eq_false_iff_not] at h
    refine ⟨fun hSkipped => ?_, ?_⟩
    · rcases hSkipped with hBlank | hMark
      · rw [hBlank] at hHead
        cases hHead
      · rw [hHead] at hMark
        simp [h] at hMark
    · rw [hHead]
      simp [h]

/-- A key that begins like an entry is read back, trimmed. -/
theorem read_entryLine {key value : String} (hKey : '=' ∉ key.toList)
    (hName : separator ∉ key.toList) (hBegins : beginsEntry key = true) :
    read (Section.entryLine (key, value)) =
      .ok (.entry [String.ofList (Text.trimChars key.toList)]
        (String.ofList (Text.trimChars value.toList))) := by
  rw [read_of_keyed (keyed_entryLine value hBegins), readEntry_entryLine value hKey,
    segments_name hName (trimChars_ne_nil_of_beginsEntry hBegins),
    if_neg (List.cons_ne_nil _ _)]

/-- A key that does not begin like an entry is not read as one. -/
theorem read_entryLine_ne_entry {key value : String} (hKey : '=' ∉ key.toList)
    (hBegins : beginsEntry key = false) (path : List String) (text : String) :
    read (Section.entryLine (key, value)) ≠ .ok (.entry path text) := by
  intro h
  have hKeyed : Keyed (Section.entryLine (key, value)) := (read_eq_entry_iff.mp h).1
  rw [read_of_keyed hKeyed, readEntry_entryLine value hKey] at h
  cases hTrim : Text.trimChars key.toList with
  | nil =>
    have hSegments : segments key.toList = [] := by
      rw [segments, hTrim]
      rfl
    rw [if_pos hSegments] at h
    cases h
  | cons c rest =>
    have hHead := head?_trimChars_entryLine key value
    obtain ⟨d, tail, hLine, hMark, hBracket⟩ := hKeyed.exists_cons
    rw [hLine, hTrim] at hHead
    simp only [List.head?_cons, Option.getD_some, Option.some.injEq] at hHead
    subst hHead
    rw [beginsEntry, hTrim] at hBegins
    simp_all

/-! ## What is read -/

/-- The segments of a header have no line feed in them. -/
theorem oneLine_of_read_header {text : List Char} (hText : '\n' ∉ text) {path : List String}
    (h : read text = .ok (.header path)) :
    Path.Clean separator path ∧ ∀ name ∈ path, '\n' ∉ name.toList := by
  obtain ⟨-, name, hLine, rfl⟩ := read_eq_header_iff.mp h
  have hName : '\n' ∉ name := by
    intro hMem
    apply hText
    apply (Text.trimChars_sublist text).subset
    rw [hLine]
    exact List.mem_cons_of_mem _ (List.mem_append_left _ hMem)
  exact ⟨clean_segments name, fun other hOther hMem => hName (subset_of_mem_segments hOther hMem)⟩

/-- What an entry that was read consists of. -/
theorem fits_of_read {text : List Char} (hText : '\n' ∉ text) {path : List String}
    {value : String} (h : read text = .ok (.entry path value)) : path ≠ [] ∧ Fits path value := by
  obtain ⟨-, hNe, before, behind, hLine, hSign, rfl, rfl⟩ := read_eq_entry_iff.mp h
  have hParts : '\n' ∉ before ++ '=' :: behind := by
    rw [← hLine]
    exact fun hMem => hText ((Text.trimChars_sublist text).subset hMem)
  simp only [List.mem_append, List.mem_cons, not_or] at hParts
  refine ⟨hNe, clean_segments _, fun name hName hMem => ?_, fun name hName hMem => ?_, ?_, ?_⟩
  · exact hParts.1 (subset_of_mem_segments hName hMem)
  · exact hSign (subset_of_mem_segments (List.mem_of_getLast? hName) hMem)
  · rw [String.toList_ofList]
    exact fun hMem => hParts.2.2 ((Text.trimChars_sublist behind).subset hMem)
  · rw [String.toList_ofList, Text.trimChars_idem]

end Line

end ConfigStore.Ini
