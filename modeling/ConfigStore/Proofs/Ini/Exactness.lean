import ConfigStore.Proofs.Ini.Document

/-!
# Exactly what is read

What a document holds, and which line it fails at, in terms of the kinds of its lines.

* `Ini.InForce` is the section in force below some lines, and `Ini.Sets` what a line sets there.
* `Ini.Rejected` tells the lines that cannot follow the lines above them.
* `Ini.Progress.Reflects` holds of a reader behind some lines. It decides whether the next line can
  be read (`Ini.Progress.Reflects.exists_read_iff`), and it is kept by a line that is
  (`Ini.Progress.Reflects.of_read`).
* `Ini.read_exact`: a document fails at the first line that cannot follow those above it, and else
  holds the value that was set last at each path.
-/

namespace ConfigStore.Ini

variable {above : List (List Char)} {line : List Char}

/-! ## The last of many lines -/

section Latest

variable {α : Type} {holds : List (List Char) → List Char → α → Prop} {a : α}

/-- What holds of the line at an index, given the lines above it. -/
def HoldsAt (holds : List (List Char) → List Char → α → Prop) (lines : List (List Char))
    (index : Nat) (a : α) : Prop :=
  ∃ line, lines[index]? = some line ∧ holds (lines.take index) line a

/-- What holds of the last line of which anything does. -/
def Latest (holds : List (List Char) → List Char → α → Prop) (lines : List (List Char)) (a : α) :
    Prop :=
  ∃ index, HoldsAt holds lines index a ∧ ∀ later, index < later → ∀ other,
    ¬ HoldsAt holds lines later other

theorem HoldsAt.lt_length {lines : List (List Char)} {index : Nat}
    (h : HoldsAt holds lines index a) : index < lines.length := by
  obtain ⟨line, hLine, -⟩ := h
  exact (List.getElem?_eq_some_iff.mp hLine).1

/-- What holds of a line does so whatever stands below it. -/
theorem holdsAt_concat_iff {index : Nat} :
    HoldsAt holds (above ++ [line]) index a ↔
      HoldsAt holds above index a ∨ index = above.length ∧ holds above line a := by
  rcases Nat.lt_trichotomy index above.length with hLt | rfl | hGt
  · simp [HoldsAt, List.getElem?_append_left hLt, List.take_append_of_le_length hLt.le, hLt.ne]
  · simp [HoldsAt]
  · have hNone : above[index]? = none := List.getElem?_eq_none hGt.le
    have hNone' : (above ++ [line])[index]? = none := by
      apply List.getElem?_eq_none
      rw [List.length_append, List.length_singleton]
      omega
    simp [HoldsAt, hNone, hNone', hGt.ne']

/-- The line below all others is the last one if anything holds of it. -/
theorem latest_concat_iff :
    Latest holds (above ++ [line]) a ↔
      holds above line a ∨ (∀ other, ¬ holds above line other) ∧ Latest holds above a := by
  unfold Latest
  simp only [holdsAt_concat_iff]
  constructor
  · rintro ⟨index, hIndex | ⟨-, hNow⟩, hLater⟩
    · refine .inr ⟨fun other hOther => ?_, index, hIndex, fun later hLt other hOther => ?_⟩
      · exact hLater above.length hIndex.lt_length other (.inr ⟨rfl, hOther⟩)
      · exact hLater later hLt other (.inl hOther)
    · exact .inl hNow
  · rintro (hNow | ⟨hNot, index, hIndex, hLater⟩)
    · refine ⟨above.length, .inr ⟨rfl, hNow⟩, fun later hLt other hOther => ?_⟩
      rcases hOther with hOther | ⟨hEq, -⟩
      · have := hOther.lt_length
        omega
      · omega
    · refine ⟨index, .inl hIndex, fun later hLt other hOther => ?_⟩
      rcases hOther with hOther | ⟨-, hNow⟩
      · exact hLater later hLt other hOther
      · exact hNot other hNow

theorem not_latest_nil : ¬ Latest holds [] a := by
  rintro ⟨index, h, -⟩
  exact absurd h.lt_length (Nat.not_lt_zero index)

/-- Among the lines of which anything holds, there is a last one. -/
theorem HoldsAt.exists_latest {lines : List (List Char)} {index : Nat}
    (h : HoldsAt holds lines index a) : ∃ other, Latest holds lines other := by
  induction lines using List.reverseRecOn with
  | nil => exact absurd h.lt_length (Nat.not_lt_zero index)
  | append_singleton above line ih =>
    by_cases hNow : ∃ other, holds above line other
    · obtain ⟨other, hOther⟩ := hNow
      exact ⟨other, latest_concat_iff.mpr (.inl hOther)⟩
    · rcases holdsAt_concat_iff.mp h with hAbove | ⟨-, hHolds⟩
      · obtain ⟨other, hOther⟩ := ih hAbove
        exact ⟨other, latest_concat_iff.mpr (.inr ⟨not_exists.mp hNow, hOther⟩)⟩
      · exact absurd ⟨a, hHolds⟩ hNow

end Latest

/-! ## Sections and entries -/

/-- The section in force below some lines: that of the last header, or none. -/
def InForce (lines : List (List Char)) (path : List String) : Prop :=
  Latest (fun _ => Opens) lines path ∨ path = [] ∧ ∀ line ∈ lines, ∀ other, ¬ Opens line other

/-- A line sets the value at a path, which is the section in force followed by the key. -/
def Sets (path : List String) (above : List (List Char)) (line : List Char) (value : String) :
    Prop :=
  ∃ heading key, InForce above heading ∧ Assigns line key value ∧ heading ++ key = path

/-- A line that cannot follow the lines above it: it cannot be read, or its path leads through one
that is set above, or the other way round. -/
inductive Rejected (above : List (List Char)) (line : List Char) : Prop where
  | malformed {fault : LineFault} (hLine : Malformed line fault)
  | clash {path other : List String} {value found : String} {index : Nat}
      (hLine : Sets path above line value) (hOther : HoldsAt (Sets other) above index found)
      (hClash : Path.Clashes path other)

theorem inForce_nil_iff {path : List String} : InForce [] path ↔ path = [] := by
  simp [InForce, not_latest_nil]

theorem inForce_concat_iff {path : List String} :
    InForce (above ++ [line]) path ↔
      Opens line path ∨ (∀ other, ¬ Opens line other) ∧ InForce above path := by
  unfold InForce
  rw [latest_concat_iff, List.forall_mem_append, List.forall_mem_singleton]
  tauto

namespace Progress

/-! ## A reader behind some lines -/

/-- The section in force and the values are those that the lines set. -/
structure Reflects (progress : Progress) (lines : List (List Char)) : Prop where
  heading_iff : ∀ path, InForce lines path ↔ path = progress.heading
  filled : progress.tree.root.Filled
  value_iff : ∀ path value,
    progress.tree.root.valueAt? path = some value ↔ Latest (Sets path) lines value

theorem reflects_nil : Reflects {} [] where
  heading_iff path := inForce_nil_iff
  filled := Node.filled_empty
  value_iff path value := by simp [not_latest_nil]

variable {progress next : Progress}

theorem Reflects.sets_iff (h : progress.Reflects above) {path : List String} {value : String} :
    Sets path above line value ↔
      ∃ key, Assigns line key value ∧ progress.heading ++ key = path := by
  simp [Sets, h.heading_iff]

/-- One more line puts another section in force if it is read as a header. -/
theorem Reflects.inForce_next_iff (h : progress.Reflects above) {path : List String} :
    InForce (above ++ [line]) path ↔
      Line.read line = .ok (.header path) ∨
        (∀ other, Line.read line ≠ .ok (.header other)) ∧ path = progress.heading := by
  rw [inForce_concat_iff, h.heading_iff]
  simp only [← Line.read_eq_header_iff, ne_eq]

/-- One more line sets another value at a path if it is read as an entry for it. -/
theorem Reflects.latest_next_iff (h : progress.Reflects above) {path : List String}
    {value : String} :
    Latest (Sets path) (above ++ [line]) value ↔
      (∃ key, Line.read line = .ok (.entry key value) ∧ progress.heading ++ key = path) ∨
        (∀ key found, Line.read line = .ok (.entry key found) → progress.heading ++ key ≠ path) ∧
          progress.tree.root.valueAt? path = some value := by
  rw [latest_concat_iff, h.value_iff]
  simp only [h.sets_iff, ← Line.read_eq_entry_iff, not_exists, not_and]
  rw [forall_comm]

/-- Going on over a line keeps track of what the line opens or sets. -/
theorem Reflects.of_read (h : progress.Reflects above) (hNext : progress.read line = .ok next) :
    next.Reflects (above ++ [line]) := by
  rcases read_cases hNext with ⟨hLine, rfl⟩ | ⟨heading, hLine, rfl⟩ |
    ⟨key, value, tree, hLine, hTree, rfl⟩
  · exact ⟨fun path => by simp [h.inForce_next_iff, hLine], h.filled,
      fun path value => by simp [h.latest_next_iff, hLine]⟩
  · exact ⟨fun path => by simp [h.inForce_next_iff, hLine, eq_comm], h.filled,
      fun path value => by simp [h.latest_next_iff, hLine]⟩
  · refine ⟨fun path => by simp [h.inForce_next_iff, hLine], Tree.filled_insert h.filled hTree, ?_⟩
    intro path found
    rw [h.latest_next_iff, Tree.valueAt?_insert hTree]
    by_cases hPath : path = progress.heading ++ key
    · simp [hLine, hPath]
    · simp [hLine, hPath, Ne.symm hPath]

/-- A line is read unless it is rejected. -/
theorem Reflects.exists_read_iff (h : progress.Reflects above) :
    (∃ next, progress.read line = .ok next) ↔ ¬ Rejected above line := by
  constructor
  · intro hRead hRejected
    obtain ⟨next, hNext⟩ := hRead
    cases hRejected with
    | malformed hLine =>
      rw [read, Line.read_of_malformed hLine] at hNext
      cases hNext
    | clash hLine hOther hClash =>
      obtain ⟨key, hAssigns, rfl⟩ := h.sets_iff.mp hLine
      rw [read_of_entry (Line.read_of_assigns hAssigns)] at hNext
      obtain ⟨tree, hTree, -⟩ := Except.map_eq_ok_iff.mp (Except.mapError_eq_ok_iff.mp hNext)
      -- the line that sets the other path may have been superseded, but then by another value there
      obtain ⟨found, hFound⟩ := hOther.exists_latest
      have hRoom := ((Tree.exists_insert_iff h.filled).mp ⟨tree, hTree⟩).2
      exact hRoom _ _ ((h.value_iff _ _).mpr hFound) hClash
  · intro hRoom
    rcases Line.kinds line with hSkipped | ⟨path, hOpens⟩ | ⟨key, value, hAssigns⟩ | ⟨fault, hLine⟩
    · exact ⟨progress, by rw [read, Line.read_of_skipped hSkipped]; rfl⟩
    · exact ⟨_, read_of_header (Line.read_of_opens hOpens)⟩
    · have hSets : Sets (progress.heading ++ key) above line value :=
        h.sets_iff.mpr ⟨key, hAssigns, rfl⟩
      obtain ⟨tree, hTree⟩ :
          ∃ tree, progress.tree.insert (progress.heading ++ key) value = .ok tree := by
        apply (Tree.exists_insert_iff h.filled).mpr
        refine ⟨List.append_ne_nil_of_right_ne_nil _ hAssigns.2.1, ?_⟩
        intro other found hFound hClash
        obtain ⟨index, hOther, -⟩ := (h.value_iff other found).mp hFound
        exact hRoom (.clash hSets hOther hClash)
      exact ⟨_, by rw [read_of_entry (Line.read_of_assigns hAssigns), hTree]; rfl⟩
    · exact absurd (.malformed hLine) hRoom

/-! ## Runs -/

theorem foldlM_concat_eq_ok_iff {first last : Progress} :
    (above ++ [line]).foldlM read first = .ok last ↔
      ∃ progress, above.foldlM read first = .ok progress ∧ progress.read line = .ok last := by
  rw [List.foldlM_append, Except.bind_eq_ok_iff]
  simp

theorem reflects_of_foldlM {lines : List (List Char)} (h : lines.foldlM read {} = .ok progress) :
    progress.Reflects lines := by
  induction lines using List.reverseRecOn generalizing progress with
  | nil => cases h; exact reflects_nil
  | append_singleton above line ih =>
    obtain ⟨before, hAbove, hLine⟩ := foldlM_concat_eq_ok_iff.mp h
    exact (ih hAbove).of_read hLine

end Progress

/-! ## Texts -/

/-- A line is read the same without the carriage return at its end. -/
theorem Progress.read_dropReturn (progress : Progress) (line : List Char) :
    progress.read (Text.dropReturn line) = progress.read line := by
  simp only [read, Line.read, Text.trimChars_dropReturn]

/-- The text that consists of the first lines of another one, each with a line feed. -/
def firstLines (text : String) (count : Nat) : String :=
  String.ofList (((Text.lines text.toList).take count).flatMap (· ++ ['\n']))

def Readable (text : String) : Prop := ∃ tree, read text = .ok tree

theorem readable_firstLines_iff {text : String} {count : Nat} :
    Readable (firstLines text count) ↔
      ∃ progress, ((Text.lines text.toList).take count).foldlM Progress.read {} = .ok progress := by
  have hOneLine : ∀ line ∈ (Text.lines text.toList).take count, '\n' ∉ line :=
    fun line hLine => Text.notMem_of_mem_lines (List.mem_of_mem_take hLine)
  unfold Readable
  simp only [read_eq_ok_iff, firstLines, String.toList_ofList, Text.lines_flatMap_eq_map hOneLine,
    List.foldlM_map, Progress.read_dropReturn]
  constructor
  · rintro ⟨tree, last, hLast, -⟩
    exact ⟨last, hLast⟩
  · rintro ⟨last, hLast⟩
    exact ⟨last.tree, last, hLast, rfl⟩

theorem read_eq_error_iff {text : String} {fault : Fault} :
    read text = .error fault ↔
      ∃ index line before, (Text.lines text.toList)[index]? = some line ∧
        ((Text.lines text.toList).take index).foldlM Progress.read {} = .ok before ∧
        before.read line = .error fault.reason ∧ fault.line = index + 1 := by
  rw [read, Except.map_eq_error_iff, Progress.readFrom_eq_error_iff]

/-- Behind lines that are read, one more line is read in the text or not at all. -/
theorem readable_firstLines_succ_iff {text : String} {index : Nat} {progress : Progress}
    (hLine : (Text.lines text.toList)[index]? = some line)
    (hAbove : ((Text.lines text.toList).take index).foldlM Progress.read {} = .ok progress) :
    Readable (firstLines text (index + 1)) ↔ ∃ next, progress.read line = .ok next := by
  rw [readable_firstLines_iff, List.take_add_one, hLine, Option.toList_some]
  simp only [Progress.foldlM_concat_eq_ok_iff, hAbove, Except.ok.injEq, exists_eq_left']

/-- A text fails at the line that the lines above it can do without. -/
theorem exists_fault_iff {text : String} {index : Nat} :
    (∃ reason, read text = .error ⟨index + 1, reason⟩) ↔
      Readable (firstLines text index) ∧ ¬ Readable (firstLines text (index + 1)) := by
  constructor
  · rintro ⟨reason, h⟩
    obtain ⟨number, line, before, hLine, hBefore, hError, hIndex⟩ := read_eq_error_iff.mp h
    obtain rfl : index = number := Nat.succ.inj hIndex
    refine ⟨readable_firstLines_iff.mpr ⟨before, hBefore⟩, ?_⟩
    rw [readable_firstLines_succ_iff hLine hBefore, hError]
    simp
  · rintro ⟨hAbove, hNot⟩
    obtain ⟨progress, hProgress⟩ := readable_firstLines_iff.mp hAbove
    cases hLine : (Text.lines text.toList)[index]? with
    | none =>
      -- behind the last line there is nothing more to read
      rw [firstLines, List.take_add_one, hLine, Option.toList_none, List.append_nil] at hNot
      exact absurd hAbove hNot
    | some line =>
      rw [readable_firstLines_succ_iff hLine hProgress] at hNot
      cases hRead : progress.read line with
      | ok next => exact absurd ⟨next, hRead⟩ hNot
      | error reason =>
        exact ⟨reason, read_eq_error_iff.mpr ⟨index, line, progress, hLine, hProgress, hRead, rfl⟩⟩

/-- A document fails at the line that its first lines can be read without but not with. That line
is one that cannot follow the lines above it. A document that does not fail holds at each path the
value that was set last, and nothing at the paths that no line sets. -/
theorem read_exact (file text : String) :
    (∀ error, (read text).mapError (·.toError file) = .error error →
      ∃ index message, index < (Text.lines text.toList).length ∧
        error = .parse file (some (index + 1)) message) ∧
    (∀ index,
      (∃ message, (read text).mapError (·.toError file) =
        .error (.parse file (some (index + 1)) message)) ↔
      Readable (firstLines text index) ∧ ¬ Readable (firstLines text (index + 1))) ∧
    (∀ index line, (Text.lines text.toList)[index]? = some line →
      Readable (firstLines text index) →
        (¬ Readable (firstLines text (index + 1)) ↔
          Rejected ((Text.lines text.toList).take index) line)) ∧
    ∀ tree, read text = .ok tree → ∀ path value,
      tree.get? path = some (.leaf value) ↔
        Latest (Sets path) (Text.lines text.toList) value := by
  refine ⟨fun error h => ?_, fun index => ?_, fun index line hLine hAbove => ?_,
    fun tree hTree path value => ?_⟩
  · obtain ⟨fault, hFault, rfl⟩ := Except.mapError_eq_error_iff.mp h
    obtain ⟨index, line, before, hLine, -, -, hIndex⟩ := read_eq_error_iff.mp hFault
    refine ⟨index, fault.reason.message, (List.getElem?_eq_some_iff.mp hLine).1, ?_⟩
    rw [Fault.toError, hIndex]
  · rw [← exists_fault_iff]
    simp only [Except.mapError_eq_error_iff, Fault.toError]
    constructor
    · rintro ⟨message, fault, hFault, hError⟩
      simp only [Error.parse.injEq, Option.some.injEq, true_and] at hError
      exact ⟨fault.reason, by rw [hFault, ← hError.1]⟩
    · rintro ⟨reason, hFault⟩
      exact ⟨_, _, hFault, rfl⟩
  · obtain ⟨progress, hProgress⟩ := readable_firstLines_iff.mp hAbove
    have hReflects := Progress.reflects_of_foldlM hProgress
    rw [readable_firstLines_succ_iff hLine hProgress, hReflects.exists_read_iff, not_not]
  · obtain ⟨last, hLast, rfl⟩ := read_eq_ok_iff.mp hTree
    rw [← (Progress.reflects_of_foldlM hLast).value_iff, Node.valueAt?_eq_some_iff, Tree.get?]

/-- The value of `a` leaves no room for one below the section `a`, and of the two values of a key
in a section that is opened twice the last one is held. -/
theorem read_exact_twice_opened :
    Rejected ["a = 1".toList, "[a]".toList] "b = 2".toList ∧
      Latest (Sets ["a", "k"]) ["[a]".toList, "k = 1".toList, ";k = 3".toList, "[ /a ]".toList,
        "k = 2".toList] "2" := by
  obtain ⟨-, hFails, hRejected, -⟩ := read_exact "app.ini" "a = 1\n[a]\nb = 2\n"
  obtain ⟨hAbove, hNot⟩ := (hFails 2).mp ⟨_, rfl⟩
  obtain ⟨-, -, -, hHeld⟩ := read_exact "app.ini" "[a]\nk = 1\n;k = 3\n[ /a ]\nk = 2\n"
  exact ⟨(hRejected 2 "b = 2".toList rfl hAbove).mp hNot, (hHeld _ rfl ["a", "k"] "2").mp rfl⟩

end ConfigStore.Ini
