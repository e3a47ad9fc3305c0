import ConfigStore.Proofs.Path
import ConfigStore.Text.Blank
import Mathlib.Data.List.DropRight

/-!
# Trimmed text and lines

* `Text.exists_trimChars`: trimming takes blanks off both ends and nothing else.
* `Text.trimChars_append_cons`: blanks on the two sides of a character that is no blank are
  trimmed apart from each other.
* `Text.trimChars_eq_self_of_countP`: a trimmed text that has lost nothing was trimmed before.
* `Text.trimChars_join`: joining trimmed texts gives a trimmed text.
* `Text.lines_flatMap`: lines that are written each with a line feed are read back, and so are
  others but for their carriage returns (`Text.lines_flatMap_eq_map`).
-/

namespace ConfigStore.Text

variable {text : List Char}

theorem trimEnd_eq_rdropWhile (text : List Char) : trimEnd text = text.rdropWhile isBlank := rfl

theorem isBlank_space : isBlank ' ' = true := by decide

/-! ## Trimming -/

/-- Trimming takes blanks off both ends and nothing else. -/
theorem exists_trimChars (text : List Char) :
    ∃ before behind, text = before ++ trimChars text ++ behind ∧
      (∀ c ∈ before, isBlank c = true) ∧ ∀ c ∈ behind, isBlank c = true := by
  refine ⟨text.takeWhile isBlank, (trimStart text).rtakeWhile isBlank, ?_,
    fun c hc => List.mem_takeWhile_imp hc, fun c hc => List.mem_rtakeWhile_imp hc⟩
  rw [List.append_assoc, trimChars, trimEnd_eq_rdropWhile, List.rdropWhile_append_rtakeWhile,
    trimStart, List.takeWhile_append_dropWhile]

theorem trimChars_sublist (text : List Char) : (trimChars text).Sublist text := by
  obtain ⟨before, behind, hText, -, -⟩ := exists_trimChars text
  conv_rhs => rw [hText]
  exact (List.sublist_append_right before _).trans (List.sublist_append_left _ behind)

/-- A text is trimmed if it neither begins nor ends with a blank. -/
theorem trimChars_eq_self_iff :
    trimChars text = text ↔
      (∀ c ∈ text.head?, isBlank c = false) ∧ ∀ c ∈ text.getLast?, isBlank c = false := by
  have hStart : trimStart text = text ↔ ∀ c ∈ text.head?, isBlank c = false := by
    cases text with
    | nil => simp [trimStart]
    | cons c rest => simp [trimStart, List.dropWhile_eq_self_iff]
  have hEnd : trimEnd text = text ↔ ∀ c ∈ text.getLast?, isBlank c = false := by
    rw [trimEnd_eq_rdropWhile, List.rdropWhile_eq_self_iff]
    cases text with
    | nil => simp
    | cons c rest => simp [List.getLast?_eq_some_getLast]
  rw [← hStart, ← hEnd]
  constructor
  · intro h
    have hLength : text.length ≤ (trimStart text).length := by
      conv_lhs => rw [← h]
      exact (List.rdropWhile_prefix isBlank (trimStart text)).length_le
    have hTrimmed : trimStart text = text :=
      (List.dropWhile_suffix isBlank).eq_of_length_le hLength
    exact ⟨hTrimmed, by rwa [trimChars, hTrimmed] at h⟩
  · rintro ⟨hTrimmed, hTrimmed'⟩
    rw [trimChars, hTrimmed, hTrimmed']

theorem trimStart_append_cons {c : Char} (h : isBlank c = false) (before behind : List Char) :
    trimStart (before ++ c :: behind) = trimStart before ++ c :: behind := by
  have hCons : (c :: behind).dropWhile isBlank = c :: behind := by simp [h]
  rw [trimStart, List.dropWhile_append, hCons, trimStart]
  split
  next hEmpty => rw [List.isEmpty_iff.mp hEmpty, List.nil_append]
  · rfl

theorem trimEnd_append_cons {c : Char} (h : isBlank c = false) (before behind : List Char) :
    trimEnd (before ++ c :: behind) = before ++ c :: trimEnd behind := by
  have hReverse : (before ++ c :: behind).reverse = behind.reverse ++ c :: before.reverse := by
    simp
  have hStart := trimStart_append_cons h behind.reverse before.reverse
  rw [trimEnd, hReverse, ← trimStart, hStart, List.reverse_append, List.reverse_cons,
    List.reverse_reverse, trimEnd, ← trimStart, List.append_assoc, List.singleton_append]

/-- A character that is no blank keeps what is around it apart. -/
theorem trimChars_append_cons {c : Char} (h : isBlank c = false) (before behind : List Char) :
    trimChars (before ++ c :: behind) = trimStart before ++ c :: trimEnd behind := by
  rw [trimChars, trimStart_append_cons h, trimEnd_append_cons h]

theorem isBlank_of_mem_head?_trimStart {c : Char} (h : c ∈ (trimStart text).head?) :
    isBlank c = false := by
  have hNot := List.head?_dropWhile_not isBlank text
  rw [← trimStart, show (trimStart text).head? = some c from h] at hNot
  simpa using hNot

theorem head?_trimChars (text : List Char) : (trimChars text).head? = (trimStart text).head? := by
  rw [trimChars]
  cases hText : trimStart text with
  | nil => rfl
  | cons c rest =>
    have hBlank : isBlank c = false := isBlank_of_mem_head?_trimStart (by rw [hText]; rfl)
    have hTrim : trimEnd (c :: rest) = c :: trimEnd rest := trimEnd_append_cons hBlank [] rest
    rw [hTrim, List.head?_cons, List.head?_cons]

theorem trimChars_trimStart (text : List Char) : trimChars (trimStart text) = trimChars text := by
  rw [trimChars, trimChars, trimStart, trimStart, List.dropWhile_idempotent]

theorem trimChars_append_blanks {behind : List Char} (h : ∀ c ∈ behind, isBlank c = true)
    (text : List Char) : trimChars (text ++ behind) = trimChars text := by
  have hEnd (text : List Char) : trimEnd (text ++ behind) = trimEnd text := by
    rw [trimEnd, List.reverse_append, List.dropWhile_append_of_pos (by simpa using h), ← trimEnd]
  rw [trimChars, trimStart, List.dropWhile_append]
  split
  next hEmpty =>
    rw [trimChars, trimStart, List.isEmpty_iff.mp hEmpty, List.dropWhile_eq_nil_iff.mpr h]
  · exact hEnd _

theorem trimChars_trimEnd (text : List Char) : trimChars (trimEnd text) = trimChars text := by
  conv_rhs => rw [← List.rdropWhile_append_rtakeWhile (p := isBlank) (l := text)]
  exact (trimChars_append_blanks (fun c hc => List.mem_rtakeWhile_imp hc) _).symm

theorem trimChars_cons_blank {c : Char} (h : isBlank c = true) (text : List Char) :
    trimChars (c :: text) = trimChars text := by
  rw [trimChars, trimStart, List.dropWhile_cons_of_pos h, ← trimStart, trimChars]

theorem trimChars_idem (text : List Char) : trimChars (trimChars text) = trimChars text := by
  refine trimChars_eq_self_iff.mpr ⟨?_, ?_⟩
  · intro c hc
    rw [head?_trimChars] at hc
    exact isBlank_of_mem_head?_trimStart hc
  · intro c hc
    have hNe : trimChars text ≠ [] := by
      intro hNil
      rw [hNil] at hc
      cases hc
    have hNot : ¬ isBlank ((trimChars text).getLast hNe) = true :=
      List.rdropWhile_last_not isBlank (trimStart text) hNe
    rw [Option.mem_def, List.getLast?_eq_some_getLast hNe, Option.some.injEq] at hc
    rw [← hc]
    simpa using hNot

/-- A trimmed text that has lost none of the characters that count, blanks among them, was
trimmed before. -/
theorem trimChars_eq_self_of_countP {p : Char → Bool} (hBlank : ∀ c, isBlank c = true → p c = true)
    (h : text.countP p ≤ (trimChars text).countP p) : trimChars text = text := by
  obtain ⟨before, behind, hText, hBefore, hBehind⟩ := exists_trimChars text
  have hCount : text.countP p = before.countP p + (trimChars text).countP p + behind.countP p := by
    conv_lhs => rw [hText]
    rw [List.countP_append, List.countP_append]
  have hBeforeCount : before.countP p = before.length :=
    List.countP_eq_length.mpr fun c hc => hBlank c (hBefore c hc)
  have hBehindCount : behind.countP p = behind.length :=
    List.countP_eq_length.mpr fun c hc => hBlank c (hBehind c hc)
  have hNil : before = [] := List.length_eq_zero_iff.mp (by omega)
  have hNil' : behind = [] := List.length_eq_zero_iff.mp (by omega)
  rw [hNil, hNil', List.nil_append, List.append_nil] at hText
  exact hText.symm

/-! ## Joined texts -/

/-- Texts without blanks around them, joined by a sign that is no blank, have none around them. -/
theorem trimChars_join {separator : Char} (hSeparator : isBlank separator = false)
    {path : List String} (h : ∀ name ∈ path, trimChars name.toList = name.toList) :
    trimChars (Path.join separator path).toList = (Path.join separator path).toList := by
  rw [Path.toList_join]
  refine trimChars_eq_self_iff.mpr ⟨?_, ?_⟩
  · cases path with
    | nil => exact fun c hc => by cases hc
    | cons first rest =>
      have hFirst := (trimChars_eq_self_iff.mp (h first List.mem_cons_self)).1
      cases rest with
      | nil => simpa using hFirst
      | cons second rest =>
        rw [List.map_cons, List.map_cons, List.intercalate_cons_cons, List.append_assoc,
          List.singleton_append, List.head?_append]
        intro c hc
        rcases Option.or_eq_some_iff.mp hc with hc | ⟨-, hc⟩
        · exact hFirst c hc
        · cases hc
          exact hSeparator
  · induction path with
    | nil => exact fun c hc => by cases hc
    | cons first rest ih =>
      have hRest := ih fun name hName => h name (List.mem_cons_of_mem _ hName)
      cases rest with
      | nil => simpa using (trimChars_eq_self_iff.mp (h first List.mem_cons_self)).2
      | cons second rest =>
        rw [List.map_cons, List.map_cons, List.intercalate_cons_cons, List.getLast?_append,
          List.getLast?_append, List.getLast?_singleton, Option.some_or]
        intro c hc
        rcases Option.or_eq_some_iff.mp hc with hc | ⟨-, hc⟩
        · exact hRest c hc
        · cases hc
          exact hSeparator

/-! ## Lines -/

theorem stretches_eq_pieces (text : List Char) : stretches text = Path.pieces '\n' text := by
  induction text with
  | nil => rfl
  | cons c rest ih =>
    by_cases hEq : c = '\n'
    · subst hEq
      rw [stretches, Path.pieces, if_pos rfl, ih]
    · have hCons := stretches.eq_3 c rest hEq
      rw [ih] at hCons
      rw [Path.pieces, if_neg hEq]
      exact hCons

theorem stretches_flatMap {written : List (List Char)} (h : ∀ line ∈ written, '\n' ∉ line) :
    stretches (written.flatMap (· ++ ['\n'])) = written ++ [[]] := by
  induction written with
  | nil => rfl
  | cons line rest ih =>
    have hRest := ih fun other hOther => h other (List.mem_cons_of_mem _ hOther)
    rw [stretches_eq_pieces, Path.pieces_eq_splitOn] at hRest ⊢
    rw [List.flatMap_cons, List.append_assoc, List.singleton_append,
      List.splitOn_append_cons_self_of_not_mem (h line List.mem_cons_self), hRest,
      List.cons_append]

/-- Lines that are written each with a line feed are read back, less the carriage returns at
their ends. -/
theorem lines_flatMap_eq_map {written : List (List Char)} (h : ∀ line ∈ written, '\n' ∉ line) :
    lines (written.flatMap (· ++ ['\n'])) = written.map dropReturn := by
  rw [lines, stretches_flatMap h]
  simp

/-- Lines that are written each with a line feed are read back. -/
theorem lines_flatMap {written : List (List Char)} (h : ∀ line ∈ written, '\n' ∉ line)
    (hReturn : ∀ line ∈ written, line.getLast? ≠ some '\r') :
    lines (written.flatMap (· ++ ['\n'])) = written := by
  rw [lines_flatMap_eq_map h]
  exact (List.map_congr_left fun line hLine => if_neg (hReturn line hLine)).trans (List.map_id _)

/-- A carriage return at the end of a line is trimmed like any blank. -/
theorem trimChars_dropReturn (line : List Char) : trimChars (dropReturn line) = trimChars line := by
  unfold dropReturn
  split
  next hReturn =>
    obtain ⟨before, rfl⟩ := List.getLast?_eq_some_iff.mp hReturn
    have hBlank : ∀ c ∈ ['\r'], isBlank c = true := List.forall_mem_singleton.mpr (by decide)
    rw [List.dropLast_concat, trimChars_append_blanks hBlank]
  · rfl

/-- A line has no line feed in it. -/
theorem notMem_of_mem_lines {line : List Char} (h : line ∈ lines text) : '\n' ∉ line := by
  have hPiece : ∀ piece ∈ stretches text, '\n' ∉ piece := by
    intro piece hPiece
    rw [stretches_eq_pieces] at hPiece
    exact Path.notMem_of_mem_pieces hPiece
  rw [lines] at h
  rcases List.mem_append.mp h with h | h
  · obtain ⟨piece, hMem, rfl⟩ := List.mem_map.mp h
    have hNot := hPiece piece (List.dropLast_subset _ hMem)
    rw [dropReturn]
    split
    · exact fun hLast => hNot (List.dropLast_subset _ hLast)
    · exact hNot
  · split at h
    · cases h
    next hNe =>
      rw [List.mem_singleton.mp h]
      cases hLast : (stretches text).getLast? with
      | none => simp
      | some piece => exact hPiece piece (List.mem_of_getLast? hLast)

end ConfigStore.Text
