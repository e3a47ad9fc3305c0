import ConfigStore.Ini.Line

/-!
# Kinds of lines

Every line of an INI file is skipped, opens a section, assigns a value or is malformed. The kinds
are told by the characters of a line alone.

* `Ini.Skipped`, `Ini.Opens`, `Ini.Assigns`: the lines that can be read.
* `Ini.Malformed`: the lines that cannot, each with what is wrong with it.
* `Ini.Line.ofKind_read`: reading a line tells its kind.
* `Ini.Line.read_eq_header_iff`, `Ini.Line.read_eq_entry_iff`: which lines open a section, and which
  assign a value.
-/

namespace ConfigStore.Ini

variable {line : List Char}

/-- A line that is blank or a comment. -/
def Skipped (line : List Char) : Prop :=
  Text.trimChars line = [] ∨ (Text.trimChars line).head? = some ';' ∨
    (Text.trimChars line).head? = some '#'

/-- A header, and the path that its brackets enclose. -/
def Opens (line : List Char) (path : List String) : Prop :=
  path ≠ [] ∧ ∃ name, Text.trimChars line = '[' :: (name ++ [']']) ∧ Line.segments name = path

/-- A line that is neither skipped nor begins like a header. -/
structure Keyed (line : List Char) : Prop where
  notSkipped : ¬ Skipped line
  notHeader : (Text.trimChars line).head? ≠ some '['

/-- An entry. The first equals sign stands between its key and its value. -/
def Assigns (line : List Char) (key : List String) (value : String) : Prop :=
  Keyed line ∧ key ≠ [] ∧ ∃ before behind, Text.trimChars line = before ++ '=' :: behind ∧
    '=' ∉ before ∧ Line.segments before = key ∧ String.ofList (Text.trimChars behind) = value

/-- A line that cannot be read, and why. -/
inductive Malformed (line : List Char) : LineFault → Prop where
  | unterminatedHeader {rest : List Char} (hLine : Text.trimChars line = '[' :: rest)
      (hEnd : rest.getLast? ≠ some ']') : Malformed line .unterminatedHeader
  | emptySection {name : List Char} (hLine : Text.trimChars line = '[' :: (name ++ [']']))
      (hName : Line.segments name = []) : Malformed line .emptySection
  | noEquals (hKeyed : Keyed line) (hSign : '=' ∉ Text.trimChars line) :
      Malformed line (.noEquals (String.ofList (Text.trimChars line)))
  | emptyKey {before behind : List Char} (hKeyed : Keyed line)
      (hLine : Text.trimChars line = before ++ '=' :: behind) (hSign : '=' ∉ before)
      (hKey : Line.segments before = []) : Malformed line .emptyKey

/-- The first character decides how a line goes on. -/
theorem keyed_cases (line : List Char) :
    Skipped line ∨ (∃ rest, Text.trimChars line = '[' :: rest) ∨ Keyed line := by
  by_cases hSkipped : Skipped line
  · exact .inl hSkipped
  · by_cases hHeader : (Text.trimChars line).head? = some '['
    · obtain ⟨rest, hRest⟩ := List.head?_eq_some_iff.mp hHeader
      exact .inr (.inl ⟨rest, hRest⟩)
    · exact .inr (.inr ⟨hSkipped, hHeader⟩)

theorem Keyed.exists_cons (h : Keyed line) :
    ∃ c rest, Text.trimChars line = c :: rest ∧ ¬ (c = ';' ∨ c = '#') ∧ c ≠ '[' := by
  cases hLine : Text.trimChars line with
  | nil => exact absurd (.inl hLine) h.notSkipped
  | cons c rest =>
    refine ⟨c, rest, rfl, fun hMark => h.notSkipped (.inr ?_), fun hBracket => h.notHeader ?_⟩
    · rw [hLine]
      simpa using hMark
    · rw [hLine, hBracket, List.head?_cons]

namespace Line

/-! ## What a line is read as -/

theorem read_of_skipped (h : Skipped line) : read line = .ok .empty := by
  unfold read
  rcases h with hBlank | hMark
  · rw [hBlank]
    rfl
  · cases hLine : Text.trimChars line with
    | nil => rfl
    | cons c rest =>
      rw [hLine] at hMark
      rw [readTrimmed, if_pos (by simpa using hMark)]

theorem read_of_bracket {rest : List Char} (h : Text.trimChars line = '[' :: rest) :
    read line = readHeader rest := by
  rw [read, h, readTrimmed, if_neg (by decide), if_pos rfl]

theorem read_of_keyed (h : Keyed line) : read line = readEntry (Text.trimChars line) := by
  obtain ⟨c, rest, hLine, hMark, hBracket⟩ := h.exists_cons
  rw [read, hLine, readTrimmed, if_neg hMark, if_neg hBracket]

theorem readHeader_concat (name : List Char) :
    readHeader (name ++ [']']) =
      if segments name = [] then .error .emptySection else .ok (.header (segments name)) := by
  rw [readHeader, if_pos (by simp), List.dropLast_concat]
  cases segments name with
  | nil => rfl
  | cons first rest => simp only [reduceCtorEq, if_false]

theorem readEntry_append_cons {before : List Char} (hSign : '=' ∉ before) (behind : List Char) :
    readEntry (before ++ '=' :: behind) =
      if segments before = [] then .error .emptyKey
      else .ok (.entry (segments before) (String.ofList (Text.trimChars behind))) := by
  rw [readEntry, Text.cutAt_eq_some_iff.mpr ⟨rfl, hSign⟩]
  dsimp only
  cases segments before with
  | nil => rfl
  | cons first rest => simp only [reduceCtorEq, if_false]

theorem read_of_opens {path : List String} (h : Opens line path) :
    read line = .ok (.header path) := by
  obtain ⟨hPath, name, hLine, rfl⟩ := h
  rw [read_of_bracket hLine, readHeader_concat, if_neg hPath]

theorem read_of_assigns {key : List String} {value : String} (h : Assigns line key value) :
    read line = .ok (.entry key value) := by
  obtain ⟨hKeyed, hKey, before, behind, hLine, hSign, rfl, rfl⟩ := h
  rw [read_of_keyed hKeyed, hLine, readEntry_append_cons hSign, if_neg hKey]

theorem read_of_malformed {fault : LineFault} (h : Malformed line fault) :
    read line = .error fault := by
  cases h with
  | unterminatedHeader hLine hEnd => rw [read_of_bracket hLine, readHeader, if_neg hEnd]
  | emptySection hLine hName =>
    rw [read_of_bracket hLine, readHeader_concat, if_pos hName]
  | noEquals hKeyed hSign =>
    rw [read_of_keyed hKeyed, readEntry, Text.cutAt_of_notMem hSign]
  | emptyKey hKeyed hLine hSign hKey =>
    rw [read_of_keyed hKeyed, hLine, readEntry_append_cons hSign, if_pos hKey]

/-! ## Each line is of one kind -/

/-- A line that begins like a header is one, unless its end or its name is missing. -/
theorem kinds_of_bracket {rest : List Char} (h : Text.trimChars line = '[' :: rest) :
    (∃ path, Opens line path) ∨ ∃ fault, Malformed line fault := by
  by_cases hEnd : rest.getLast? = some ']'
  · obtain ⟨name, rfl⟩ := List.getLast?_eq_some_iff.mp hEnd
    by_cases hName : segments name = []
    · exact .inr ⟨_, .emptySection h hName⟩
    · exact .inl ⟨_, hName, name, h, rfl⟩
  · exact .inr ⟨_, .unterminatedHeader h hEnd⟩

theorem kinds_of_keyed (h : Keyed line) :
    (∃ key value, Assigns line key value) ∨ ∃ fault, Malformed line fault := by
  by_cases hSign : '=' ∈ Text.trimChars line
  · obtain ⟨before, behind, hLine, hFirst⟩ := List.eq_append_cons_of_mem hSign
    by_cases hKey : segments before = []
    · exact .inr ⟨_, .emptyKey h hLine hFirst hKey⟩
    · exact .inl ⟨_, _, h, hKey, before, behind, hLine, hFirst, rfl, rfl⟩
  · exact .inr ⟨_, .noEquals h hSign⟩

theorem kinds (line : List Char) :
    Skipped line ∨ (∃ path, Opens line path) ∨ (∃ key value, Assigns line key value) ∨
      ∃ fault, Malformed line fault := by
  rcases keyed_cases line with hSkipped | ⟨rest, hRest⟩ | hKeyed
  · exact .inl hSkipped
  · rcases kinds_of_bracket hRest with hOpens | hMalformed
    · exact .inr (.inl hOpens)
    · exact .inr (.inr (.inr hMalformed))
  · exact .inr (.inr (kinds_of_keyed hKeyed))

/-- The kind of line that an outcome of reading stands for. -/
def OfKind (line : List Char) : Except LineFault Line → Prop
  | .ok .empty => Skipped line
  | .ok (.header path) => Opens line path
  | .ok (.entry key value) => Assigns line key value
  | .error fault => Malformed line fault

theorem ofKind_read (line : List Char) : OfKind line (read line) := by
  rcases kinds line with h | ⟨path, h⟩ | ⟨key, value, h⟩ | ⟨fault, h⟩
  · rw [read_of_skipped h]
    exact h
  · rw [read_of_opens h]
    exact h
  · rw [read_of_assigns h]
    exact h
  · rw [read_of_malformed h]
    exact h

theorem ofKind_of_read {outcome : Except LineFault Line} (h : read line = outcome) :
    OfKind line outcome :=
  h ▸ ofKind_read line

theorem read_eq_header_iff {path : List String} :
    read line = .ok (.header path) ↔ Opens line path :=
  ⟨ofKind_of_read, read_of_opens⟩

theorem read_eq_entry_iff {key : List String} {value : String} :
    read line = .ok (.entry key value) ↔ Assigns line key value :=
  ⟨ofKind_of_read, read_of_assigns⟩

end Line

end ConfigStore.Ini
