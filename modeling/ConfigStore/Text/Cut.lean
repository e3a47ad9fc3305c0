/-!
# Cutting text

A text is cut in two at the first place where a character occurs.

* `Text.cutAt` gives what stands in front of the character and what stands behind it.
* `Text.cutAt_eq_some_iff`: the parts with the character between them are the whole text, and
  the character does not occur in the first part.
* `Text.cutAt_of_notMem`: a text without the character stands in front as a whole.
-/

namespace ConfigStore.Text

/-- What stands in front of the first occurrence of a character, and what behind it. -/
def cutAt (c : Char) : List Char → List Char × Option (List Char)
  | [] => ([], none)
  | d :: rest =>
    if d = c then ([], some rest)
    else
      let (before, behind) := cutAt c rest
      (d :: before, behind)

theorem cutAt_eq_some_iff {c : Char} {text before behind : List Char} :
    cutAt c text = (before, some behind) ↔ text = before ++ c :: behind ∧ c ∉ before := by
  induction text generalizing before with
  | nil => simp [cutAt]
  | cons d rest ih =>
    by_cases hEq : d = c
    · subst hEq
      cases before with
      | nil => simp [cutAt]
      | cons e before =>
        simp only [cutAt, if_true, Prod.mk.injEq, List.nil_eq, reduceCtorEq, false_and,
          List.cons_append, List.cons.injEq, List.mem_cons, not_or, false_iff, not_and]
        rintro ⟨rfl, -⟩ h
        exact absurd rfl h
    · cases before with
      | nil => simp [cutAt, hEq]
      | cons e before =>
        have hRest := @ih before
        simp only [Prod.ext_iff] at hRest
        simp only [cutAt, if_neg hEq, Prod.ext_iff, List.cons.injEq, List.cons_append,
          List.mem_cons, not_or]
        constructor
        · rintro ⟨⟨rfl, hBefore⟩, hBehind⟩
          obtain ⟨hTail, hNot⟩ := hRest.mp ⟨hBefore, hBehind⟩
          exact ⟨⟨rfl, hTail⟩, Ne.symm hEq, hNot⟩
        · rintro ⟨⟨rfl, hTail⟩, -, hNot⟩
          obtain ⟨hBefore, hBehind⟩ := hRest.mpr ⟨hTail, hNot⟩
          exact ⟨⟨rfl, hBefore⟩, hBehind⟩

theorem cutAt_of_notMem {c : Char} {text : List Char} (h : c ∉ text) :
    cutAt c text = (text, none) := by
  induction text with
  | nil => rfl
  | cons d rest ih =>
    rw [List.mem_cons, not_or] at h
    rw [cutAt, if_neg (Ne.symm h.1), ih h.2]

end ConfigStore.Text
