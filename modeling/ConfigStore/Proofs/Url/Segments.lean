import ConfigStore.Proofs.Text.Percent
import ConfigStore.Url.Parser

/-!
# Names put behind a path

* `Url.isDot_encode`, `Url.isDoubleDot_encode`: an encoded text counts as dots only if it is dots.
* `Url.pushSegment_of_dots`, `Url.pushSegment_of_ne`: what putting a name behind a path does.
* `Url.foldl_pushSegment_of_length`, `Url.foldl_pushSegment_of_ne`: when each of several names
  gets a segment of its own.
* `Url.take_foldl_pushSegment_two`: which names change the second of two segments in front of them.
* `Url.spelled` is the name that a segment spells, `Url.segmentOf` the segment for a name.

The names `.` and `..` get no segment. A name with a tab or a line end in it is shortened first, and
if that makes it `..`, the segment in front of it is taken away.
-/

namespace ConfigStore.Url

/-! ## Dots -/

theorem plainDots_cons {c : Char} (h : c ≠ '%') (rest : List Char) :
    plainDots (c :: rest) = c :: plainDots rest := by
  rw [plainDots]
  · rintro _ rfl
    exact absurd rfl h
  · rintro _ rfl
    exact absurd rfl h

theorem plainDots_percent {high low : Char} (h : ¬ (high = '2' ∧ (low = 'e' ∨ low = 'E')))
    (rest : List Char) :
    plainDots ('%' :: high :: low :: rest) = '%' :: plainDots (high :: low :: rest) := by
  rw [plainDots]
  · rintro _ - ⟨⟩
    exact h ⟨rfl, .inl rfl⟩
  · rintro _ - ⟨⟩
    exact h ⟨rfl, .inr rfl⟩

/-- The digits of a byte are those of a dot only if it is one. -/
theorem not_dotDigits {b : UInt8} (h : b ≠ 0x2E) :
    ¬ (Percent.hexDigit (b.toNat / 16) = '2' ∧
      (Percent.hexDigit (b.toNat % 16) = 'e' ∨ Percent.hexDigit (b.toNat % 16) = 'E')) := by
  have hByte : b.toNat < 256 := b.toNat_lt
  have hHigh := Percent.hexValue?_hexDigit (n := b.toNat / 16) (by omega)
  have hLow := Percent.hexValue?_hexDigit (n := b.toNat % 16) (by omega)
  rintro ⟨hTwo, hE⟩
  rw [hTwo] at hHigh
  have hHigh : 2 = b.toNat / 16 := Option.some.inj hHigh
  have hLow : 14 = b.toNat % 16 := by
    rcases hE with hE | hE
    · rw [hE] at hLow
      exact Option.some.inj hLow
    · rw [hE] at hLow
      exact Option.some.inj hLow
  exact h (UInt8.toNat_inj.mp (show b.toNat = 46 by omega))

theorem eq_dot_of_firstByte {c : Char} {bytes : List UInt8}
    (h : String.utf8EncodeChar c = 0x2E :: bytes) : c = '.' := by
  obtain ⟨b, rest, hBytes, hScan⟩ := Utf8.scan_utf8EncodeChar c []
  cases h.symm.trans hBytes
  have hLead : Utf8.lead? 0x2E = some ⟨0, 0x80, 0xBF, 0x2E⟩ := rfl
  rw [Utf8.scan_of_lead hLead, Utf8.scanTails] at hScan
  exact (Utf8.Scan.char.inj hScan).1.symm

/-- Dots stay what they are, and nothing else is encoded as dots. -/
theorem plainDots_encode_eq_iff {escaped : Char → Bool} (hPercent : escaped '%' = true)
    (hDot : escaped '.' = false) {text : List Char} {count : Nat} :
    plainDots (Percent.encode escaped text) = List.replicate count '.' ↔
      text = List.replicate count '.' := by
  induction text generalizing count with
  | nil => rfl
  | cons c text ih =>
    cases hEscaped : escaped c with
    | true =>
      obtain ⟨b, bytes, rest, hBytes, hEncode⟩ := Percent.exists_encode_cons hEscaped text
      have hNotDot : c ≠ '.' := by
        rintro rfl
        rw [hDot] at hEscaped
        cases hEscaped
      have hByte : b ≠ 0x2E := by
        rintro rfl
        exact hNotDot (eq_dot_of_firstByte hBytes)
      rw [hEncode, plainDots_percent (not_dotDigits hByte)]
      cases count with
      | zero => simp
      | succ count => simp [List.replicate_succ, hNotDot]
    | false =>
      have hNotPercent : c ≠ '%' := by
        rintro rfl
        rw [hPercent] at hEscaped
        cases hEscaped
      rw [Percent.encode, List.flatMap_cons, ← Percent.encode, Percent.encodeChar, hEscaped]
      rw [if_neg (by decide), List.singleton_append, plainDots_cons hNotPercent]
      cases count with
      | zero => simp
      | succ count => rw [List.replicate_succ, List.cons.injEq, List.cons.injEq, ih]

section Dots

variable {escaped : Char → Bool} (hPercent : escaped '%' = true) (hDot : escaped '.' = false)
include hPercent hDot

theorem isDot_encode (text : List Char) :
    isDot (Percent.encode escaped text) = decide (text = ['.']) := by
  have hDots : plainDots (Percent.encode escaped text) = List.replicate 1 '.' ↔
      text = List.replicate 1 '.' := plainDots_encode_eq_iff hPercent hDot
  exact decide_eq_decide.mpr hDots

theorem isDoubleDot_encode (text : List Char) :
    isDoubleDot (Percent.encode escaped text) = decide (text = ['.', '.']) := by
  have hDots : plainDots (Percent.encode escaped text) = List.replicate 2 '.' ↔
      text = List.replicate 2 '.' := plainDots_encode_eq_iff hPercent hDot
  exact decide_eq_decide.mpr hDots

end Dots

/-! ## Putting segments behind a path -/

variable (special : Bool)

/-- A name without tabs and line ends, as they are left out of URLs. -/
def shortened (name : List Char) : List Char := name.filter (!isTabOrNewline ·)

/-- The segment that stands for a name behind a path. -/
def segmentOf (name : List Char) : List Char :=
  if shortened name = ['.'] ∨ shortened name = ['.', '.'] then []
  else Percent.encode (Escape.segment special) (shortened name)

/-- The segments that others are put behind. The path of a single slash has none. -/
def stem (segments : List (List Char)) : List (List Char) :=
  if segments = [[]] then [] else segments

theorem segment_percent : Escape.segment special '%' = true := by
  cases special <;> rfl

theorem segment_dot : Escape.segment special '.' = false := by
  cases special <;> rfl

theorem stem_of_length {segments : List (List Char)} (h : 1 < segments.length) :
    stem segments = segments := by
  apply if_neg
  rintro rfl
  simp at h

variable {segments : List (List Char)} {name : List Char}

/-- An empty segment at the end is left out, and two of them if there is no other. -/
theorem stem_popEmptySegment (h : segments ≠ [[], []]) :
    stem (popEmptySegment segments) =
      if segments.getLast? = some [] then segments.dropLast else segments := by
  unfold popEmptySegment
  by_cases hLong : 1 < segments.length
  · by_cases hLast : segments.getLast? = some []
    · rw [if_pos ⟨hLong, hLast⟩, if_pos hLast]
      obtain ⟨front, rfl⟩ := List.getLast?_eq_some_iff.mp hLast
      rw [List.dropLast_concat]
      apply if_neg
      rintro rfl
      exact h rfl
    · rw [if_neg (fun hEmpty => hLast hEmpty.2), if_neg hLast, stem_of_length hLong]
  · rw [if_neg (fun hEmpty => hLong hEmpty.1)]
    cases segments with
    | nil => rfl
    | cons segment rest =>
      have hRest : rest = [] := by
        apply List.length_eq_zero_iff.mp
        rw [List.length_cons] at hLong
        omega
      rw [hRest]
      by_cases hSegment : segment = []
      · rw [hSegment]
        rfl
      · simp [stem, hSegment]

theorem pushSegment_of_dots (h : name = ['.'] ∨ name = ['.', '.']) :
    pushSegment special segments name = segments := by
  rw [pushSegment, if_pos h]

/-- Every other name gets a segment, and `..` with a tab takes away the one in front of it. -/
theorem pushSegment_of_ne (hDots : ¬ (name = ['.'] ∨ name = ['.', '.'])) :
    pushSegment special segments name =
      (if shortened name = ['.', '.'] then dropSegment (stem segments) else stem segments) ++
        [segmentOf special name] := by
  rw [pushSegment, if_neg hDots]
  change resolveFrom (stem segments) [Percent.encode (Escape.segment special) (shortened name)] = _
  rw [resolveFrom, isDoubleDot_encode (segment_percent special) (segment_dot special),
    isDot_encode (segment_percent special) (segment_dot special)]
  by_cases hDouble : shortened name = ['.', '.']
  · simp [hDouble, segmentOf, resolveFrom]
  · by_cases hSingle : shortened name = ['.']
    · simp [hSingle, segmentOf, resolveFrom]
    · simp [hDouble, hSingle, segmentOf, resolveFrom]

theorem length_dropSegment_le (segments : List (List Char)) :
    (dropSegment segments).length ≤ segments.length := by
  unfold dropSegment
  split
  · exact Nat.zero_le _
  · split
    · exact Nat.le_refl _
    · rw [List.length_dropLast]
      exact Nat.sub_le _ _

theorem pred_le_length_dropSegment (segments : List (List Char)) :
    segments.length - 1 ≤ (dropSegment segments).length := by
  unfold dropSegment
  split
  next hLast =>
    rw [List.getLast?_eq_none_iff.mp hLast]
    exact Nat.le_refl _
  · split
    · exact Nat.sub_le _ _
    · exact Nat.le_of_eq List.length_dropLast.symm

/-- Segments stay as many as they are only where none is dropped. -/
theorem dropSegment_of_length (h : segments.length ≤ (dropSegment segments).length) :
    dropSegment segments = segments := by
  unfold dropSegment at h ⊢
  cases hLast : segments.getLast? with
  | none => exact (List.getLast?_eq_none_iff.mp hLast).symm
  | some last =>
    have hPositive : 0 < segments.length := by
      cases segments with
      | nil => cases hLast
      | cons first rest => exact Nat.succ_pos _
    rw [hLast] at h
    dsimp only at h ⊢
    split at h
    next hDrive => rw [if_pos hDrive]
    next =>
      rw [List.length_dropLast] at h
      omega

theorem length_pushSegment_le (name : List Char) (hLong : 1 < segments.length) :
    (pushSegment special segments name).length ≤ segments.length + 1 := by
  by_cases hDots : name = ['.'] ∨ name = ['.', '.']
  · rw [pushSegment_of_dots special hDots]
    exact Nat.le_succ _
  · rw [pushSegment_of_ne special hDots, stem_of_length hLong, List.length_append]
    split
    · exact Nat.succ_le_succ (length_dropSegment_le _)
    · exact Nat.le_refl _

/-- Where one segment more is there, it is that of the name. -/
theorem pushSegment_of_length (name : List Char) (hLong : 1 < segments.length)
    (h : segments.length + 1 ≤ (pushSegment special segments name).length) :
    pushSegment special segments name = segments ++ [segmentOf special name] := by
  by_cases hDots : name = ['.'] ∨ name = ['.', '.']
  · rw [pushSegment_of_dots special hDots] at h
    omega
  · rw [pushSegment_of_ne special hDots, stem_of_length hLong] at h ⊢
    split at h
    next hDouble =>
      rw [List.length_append] at h
      rw [if_pos hDouble, dropSegment_of_length (Nat.le_of_succ_le_succ h)]
    next hDouble => rw [if_neg hDouble]

/-- A segment is left out only where one is put behind the others. -/
theorem le_length_pushSegment (name : List Char) (hLong : 1 < segments.length) :
    segments.length ≤ (pushSegment special segments name).length := by
  by_cases hDots : name = ['.'] ∨ name = ['.', '.']
  · exact Nat.le_of_eq (congrArg List.length (pushSegment_of_dots special hDots).symm)
  · rw [pushSegment_of_ne special hDots, stem_of_length hLong, List.length_append,
      List.length_singleton]
    split
    · have hDrop := pred_le_length_dropSegment segments
      omega
    · exact Nat.le_succ _

theorem length_foldl_pushSegment_le (names : List (List Char)) (hLong : 1 < segments.length) :
    (names.foldl (pushSegment special) segments).length ≤ segments.length + names.length := by
  induction names generalizing segments with
  | nil => exact Nat.le_refl _
  | cons name names ih =>
    have hStep := length_pushSegment_le special name hLong
    have hRun := ih (Nat.lt_of_lt_of_le hLong (le_length_pushSegment special name hLong))
    rw [List.foldl_cons, List.length_cons]
    omega

/-- Where as many segments more are there as names, they are those of the names. -/
theorem foldl_pushSegment_of_length (names : List (List Char)) (hLong : 1 < segments.length)
    (h : segments.length + names.length ≤ (names.foldl (pushSegment special) segments).length) :
    names.foldl (pushSegment special) segments =
      segments ++ names.map (segmentOf special) := by
  induction names generalizing segments with
  | nil => exact (List.append_nil _).symm
  | cons name names ih =>
    have hLonger := Nat.lt_of_lt_of_le hLong (le_length_pushSegment special name hLong)
    have hRun := length_foldl_pushSegment_le special names hLonger
    rw [List.foldl_cons, List.length_cons] at h
    have hStep := pushSegment_of_length special name hLong (by omega)
    rw [hStep] at h hLonger
    have hRest := ih hLonger (by
      rw [List.length_append, List.length_singleton]
      omega)
    rw [List.foldl_cons, hStep, hRest, List.append_assoc, List.map_cons, List.singleton_append]

theorem foldl_pushSegment_of_ne (names : List (List Char)) (hLong : 1 < segments.length)
    (h : ∀ name ∈ names, name ≠ ['.'] ∧ shortened name ≠ ['.', '.']) :
    names.foldl (pushSegment special) segments =
      segments ++ names.map (segmentOf special) := by
  induction names generalizing segments with
  | nil => exact (List.append_nil _).symm
  | cons name names ih =>
    obtain ⟨hSingle, hDouble⟩ := h name List.mem_cons_self
    have hDots : ¬ (name = ['.'] ∨ name = ['.', '.']) := by
      rintro (hName | hName)
      · exact hSingle hName
      · exact hDouble (by rw [hName]; decide)
    have hStep : pushSegment special segments name = segments ++ [segmentOf special name] := by
      rw [pushSegment_of_ne special hDots, stem_of_length hLong, if_neg hDouble]
    have hLonger : 1 < (segments ++ [segmentOf special name]).length := by
      rw [List.length_append]
      exact Nat.lt_of_lt_of_le hLong (Nat.le_add_right _ _)
    have hRest := ih hLonger fun other hOther => h other (List.mem_cons_of_mem _ hOther)
    rw [List.foldl_cons, hStep, hRest, List.append_assoc, List.map_cons, List.singleton_append]

/-! ## The first two segments -/

theorem take_dropSegment (hLong : 2 < segments.length) :
    (dropSegment segments).take 2 = segments.take 2 := by
  unfold dropSegment
  split
  next hLast =>
    rw [List.getLast?_eq_none_iff.mp hLast]
  · split
    · rfl
    · rw [List.dropLast_eq_take, List.take_take, Nat.min_eq_left (by omega)]

/-- Of three segments or more the first two stay, and so does their number. -/
theorem take_pushSegment (name : List Char) (hLong : 2 < segments.length) :
    (pushSegment special segments name).take 2 = segments.take 2 ∧
      2 < (pushSegment special segments name).length := by
  have hTwo : 1 < segments.length := by omega
  refine ⟨?_, Nat.lt_of_lt_of_le hLong (le_length_pushSegment special name hTwo)⟩
  by_cases hDots : name = ['.'] ∨ name = ['.', '.']
  · rw [pushSegment_of_dots special hDots]
  · rw [pushSegment_of_ne special hDots, stem_of_length hTwo]
    split
    · have hDrop := pred_le_length_dropSegment segments
      rw [List.take_append_of_le_length (by omega), take_dropSegment hLong]
    · rw [List.take_append_of_le_length (by omega)]

theorem take_foldl_pushSegment (names : List (List Char)) (hLong : 2 < segments.length) :
    (names.foldl (pushSegment special) segments).take 2 = segments.take 2 := by
  induction names generalizing segments with
  | nil => rfl
  | cons name names ih =>
    obtain ⟨hTake, hLonger⟩ := take_pushSegment special name hLong
    rw [List.foldl_cons, ih hLonger, hTake]

/-- Whether the first name that gets a segment turns into `..` without its tabs and line ends. -/
def climbs (names : List (List Char)) : Bool :=
  (names.find? fun name => ¬ (name = ['.'] ∨ name = ['.', '.'])).any fun name =>
    shortened name = ['.', '.']

/-- Behind two segments, only such a name changes the second of them. -/
theorem take_foldl_pushSegment_two {first second : List Char} (h : isDrive second = false)
    (names : List (List Char)) :
    (names.foldl (pushSegment special) [first, second]).take 2 =
      if climbs names then [first, []] else [first, second] := by
  induction names generalizing second with
  | nil => rfl
  | cons name names ih =>
    rw [List.foldl_cons]
    by_cases hDots : name = ['.'] ∨ name = ['.', '.']
    · have hSame : climbs (name :: names) = climbs names := by
        rw [climbs, List.find?_cons, decide_eq_false fun hKept => hKept hDots]
        rfl
      rw [pushSegment_of_dots special hDots, ih h, hSame]
    · have hFirst : climbs (name :: names) = decide (shortened name = ['.', '.']) := by
        rw [climbs, List.find?_cons, decide_eq_true hDots]
        rfl
      rw [hFirst, pushSegment_of_ne special hDots, stem_of_length (by simp)]
      by_cases hDouble : shortened name = ['.', '.']
      · have hDrop : dropSegment [first, second] = [first] := by
          simp [dropSegment, h]
        have hEmpty : segmentOf special name = [] := by
          rw [segmentOf, if_pos (.inr hDouble)]
        rw [if_pos hDouble, hDrop, hEmpty, decide_eq_true hDouble, List.singleton_append, ih rfl]
        split <;> rfl
      · rw [if_neg hDouble, decide_eq_false hDouble, take_foldl_pushSegment special names (by simp)]
        rfl

/-! ## Reading a name off its segment -/

/-- The name that a segment spells. -/
def spelled (segment : List Char) : Except Utf8.Fault String :=
  Utf8.decode (Percent.decode segment)

theorem spelled_encode {escaped : Char → Bool} (hPercent : escaped '%' = true)
    (text : List Char) : spelled (Percent.encode escaped text) = .ok (String.ofList text) := by
  rw [spelled, Percent.decode_encode hPercent, Utf8.decode_encode]

end ConfigStore.Url
