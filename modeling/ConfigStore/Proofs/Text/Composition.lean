import ConfigStore.Text.Composition

/-!
# Characters that the composed form keeps

Only some characters in ASCII are put together with marks. The others stay as they are when a text
is brought into the composed form.

* `Composition.sortMarks_perm`: marks are sorted, and none is lost.
* `Composition.mem_normalize`: a character that takes no marks stays in the text.
-/

namespace ConfigStore.Text.Composition

theorem insertMark_perm (c : Char) (text : List Char) : (insertMark c text).Perm (c :: text) := by
  induction text with
  | nil => exact .refl _
  | cons d rest ih =>
    rw [insertMark]
    split
    · exact (ih.cons d).trans (.swap c d rest)
    · exact .refl _

theorem sortMarks_perm (text : List Char) : (sortMarks text).Perm text := by
  induction text with
  | nil => exact .refl _
  | cons c rest ih => exact (insertMark_perm c _).trans (ih.cons c)

variable {c : Char} (h : takesMarks c = false)
include h

theorem lt_of_takesMarks : c.toNat < 0x80 := by
  rw [takesMarks, Bool.or_eq_false_iff, Bool.or_eq_false_iff, Bool.or_eq_false_iff,
    Bool.or_eq_false_iff, decide_eq_false_iff_not] at h
  omega

theorem parts?_of_takesMarks : parts? c = none := by
  have hAscii := lt_of_takesMarks h
  rw [parts?, if_pos]
  exact Nat.lt_of_lt_of_le hAscii (by decide)

theorem whole?_of_first (d : Char) : whole? c d = none := by
  rw [whole?, if_neg]
  rw [h]
  rintro ⟨⟨⟩, -⟩

/-- It is no mark either. -/
theorem whole?_of_second (d : Char) : whole? d c = none := by
  have hAscii := lt_of_takesMarks h
  rw [whole?, if_neg]
  rintro ⟨-, hMark⟩
  rw [firstMark] at hMark
  omega

variable {text : List Char}

theorem mem_decompose (hMem : c ∈ text) : c ∈ decompose text := by
  apply List.mem_flatMap.mpr
  refine ⟨c, hMem, ?_⟩
  rw [decomposeIn, parts?_of_takesMarks h]
  exact List.mem_singleton_self c

/-- Neither the letter nor a mark that is put together with it is such a character. -/
theorem mem_composeFrom {letter : Char} {kept : List Char}
    (hMem : c = letter ∨ c ∈ kept ∨ c ∈ text) : c ∈ composeFrom letter kept text := by
  induction text generalizing letter kept with
  | nil => simpa [composeFrom] using hMem
  | cons d rest ih =>
    rw [composeFrom]
    split
    next whole hWhole =>
      have hJoined : whole? letter d = some whole := by
        split at hWhole
        · cases hWhole
        · exact hWhole
      have hLetter : c ≠ letter := by
        rintro rfl
        rw [whole?_of_first h] at hJoined
        cases hJoined
      have hMark : c ≠ d := by
        rintro rfl
        rw [whole?_of_second h] at hJoined
        cases hJoined
      apply ih
      rw [List.mem_cons] at hMem
      exact .inr ((hMem.resolve_left hLetter).imp_right fun hRest => hRest.resolve_left hMark)
    · split
      · rw [List.mem_append, List.mem_cons, List.mem_reverse]
        rcases hMem with hLetter | hKept | hRest
        · exact .inl (.inl hLetter)
        · exact .inl (.inr hKept)
        · exact .inr (ih ((List.mem_cons.mp hRest).imp_right .inr))
      · apply ih
        simpa only [List.mem_cons, or_assoc, or_left_comm] using hMem

/-- A character that takes no marks stays in the composed form of a text. -/
theorem mem_normalize (hMem : c ∈ text) : c ∈ normalize text := by
  have hSorted : c ∈ sortMarks (decompose text) :=
    (sortMarks_perm _).mem_iff.mpr (mem_decompose h hMem)
  rw [normalize]
  cases hText : sortMarks (decompose text) with
  | nil =>
    rw [hText] at hSorted
    cases hSorted
  | cons letter rest =>
    rw [hText] at hSorted
    exact mem_composeFrom h ((List.mem_cons.mp hSorted).imp_right .inr)

end ConfigStore.Text.Composition
