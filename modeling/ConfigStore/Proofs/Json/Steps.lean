import ConfigStore.Proofs.Json.Strings

/-!
# Steps of reading a written document

What reading does at each mark that a written document has: the beginning of a value, and what
stands behind one.

* `Json.readValue_congr`: blanks in front of a value have no influence.
* `Json.finish_eq_none`: nothing but a comma or a closing bracket may follow a value.
-/

namespace ConfigStore.Json

variable {stack : List Frame} {text rest more : List Char}

theorem skipBlanks_cons {c : Char} (h : isBlank c = false) (rest : List Char) :
    skipBlanks (c :: rest) = c :: rest := by
  rw [skipBlanks, List.dropWhile_cons_of_neg (by simp [h])]

theorem skipBlanks_newline (level : Nat) (text : List Char) :
    skipBlanks (newline level ++ text) = skipBlanks text := by
  have hBlank : ∀ c ∈ newline level, isBlank c = true := by
    intro c hMem
    rcases List.mem_cons.mp hMem with rfl | hMem
    · decide
    · rw [List.eq_of_mem_replicate hMem]
      decide
  exact List.dropWhile_append_of_pos hBlank

/-! ## The beginning of a value -/

/-- Blanks in front of a value have no influence. -/
theorem readValue_congr (h : skipBlanks text = skipBlanks more) :
    readValue stack text = readValue stack more := by
  rw [readValue, h, readValue.eq_1 stack more]

theorem readValue_newline (level : Nat) (text : List Char) :
    readValue stack (newline level ++ text) = readValue stack text :=
  readValue_congr (skipBlanks_newline level text)

theorem readValue_blank (text : List Char) :
    readValue stack (' ' :: text) = readValue stack text :=
  readValue_congr rfl

theorem readValue_null : readValue stack ("null".toList ++ rest) = finish stack .null rest := by
  rw [readValue]
  rfl

theorem readValue_bool (value : Bool) :
    readValue stack ((if value then "true".toList else "false".toList) ++ rest) =
      finish stack (.bool value) rest := by
  cases value with
  | true =>
    rw [readValue]
    rfl
  | false =>
    rw [readValue]
    rfl

theorem readValue_quote (text : String) :
    readValue stack (quote text ++ rest) = finish stack (.string text) rest := by
  obtain ⟨tail, hQuote, hRead⟩ := readString_quote text rest
  rw [hQuote, readValue, skipBlanks_cons (by decide)]
  simp only
  rw [hRead]
  simp only [String.ofList_toList]

theorem readValue_minus (text : List Char) :
    (readValue stack ('-' :: text)).toOption =
      (readNumber true text).toOption.bind fun read =>
        (finish stack (.number read.1) read.2).toOption := by
  rw [readValue, skipBlanks_cons (by decide)]
  simp only
  cases readNumber true text <;> rfl

theorem readValue_digit {c : Char} (h : (Decimal.digit? c).isSome = true) (text : List Char) :
    (readValue stack (c :: text)).toOption =
      (readNumber false (c :: text)).toOption.bind fun read =>
        (finish stack (.number read.1) read.2).toOption := by
  have hBlank : isBlank c = false := by
    cases hBlank : isBlank c with
    | false => rfl
    | true =>
      simp only [isBlank, Bool.or_eq_true, decide_eq_true_eq] at hBlank
      rcases hBlank with ((rfl | rfl) | rfl) | rfl <;> cases h
  rw [readValue, skipBlanks_cons hBlank]
  split
  next hEq => cases hEq
  iterate 7
    next hEq =>
      cases hEq
      cases h
  next hEq =>
    cases hEq
    rw [if_pos h]
    cases readNumber false (c :: text) <;> rfl

/-- Whether a value is a number can be told from its first character. -/
theorem readValue_eq_none_of_head {c : Char} (hBlank : isBlank c = false)
    (hDigit : Decimal.digit? c = none) (hHead : c ∉ ['-', '"', '[', '\x7b', 'n', 't', 'f'])
    (text : List Char) : (readValue stack (c :: text)).toOption = none := by
  rw [readValue, skipBlanks_cons hBlank]
  split
  next hEq => cases hEq
  iterate 7
    next hEq =>
      cases hEq
      exact absurd (by decide) hHead
  next hEq =>
    cases hEq
    rw [hDigit]
    rfl

theorem readValue_emptyArray (hRoom : stack.length < maxDepth) :
    readValue stack ('[' :: ']' :: rest) = finish stack (.array []) rest := by
  rw [readValue, skipBlanks_cons (by decide)]
  simp only
  rw [if_neg (Nat.not_le.mpr hRoom), skipBlanks_cons (by decide)]
  simp only

theorem readValue_emptyObject (hRoom : stack.length < maxDepth) :
    readValue stack ('\x7b' :: '\x7d' :: rest) = finish stack (.object []) rest := by
  rw [readValue, skipBlanks_cons (by decide)]
  simp only
  rw [if_neg (Nat.not_le.mpr hRoom), skipBlanks_cons (by decide)]
  simp only

theorem readValue_array (hRoom : stack.length < maxDepth) (level : Nat) {c : Char}
    (hBlank : isBlank c = false) (hClose : c ≠ ']') :
    readValue stack ('[' :: (newline level ++ c :: rest)) =
      readValue (.array [] :: stack) (c :: rest) := by
  rw [readValue, skipBlanks_cons (by decide)]
  simp only
  rw [if_neg (Nat.not_le.mpr hRoom), skipBlanks_newline, skipBlanks_cons hBlank]
  split
  next hEq => cases hEq
  next hEq =>
    cases hEq
    exact absurd rfl hClose
  · rfl

theorem readValue_object (hRoom : stack.length < maxDepth) (level : Nat) (name : String) :
    readValue stack ('\x7b' :: (newline level ++ (quote name ++ ':' :: rest))) =
      readValue (.object [] name :: stack) rest := by
  obtain ⟨tail, hQuote, hRead⟩ := readName_quote name rest
  rw [readValue, skipBlanks_cons (by decide)]
  simp only
  rw [if_neg (Nat.not_le.mpr hRoom), skipBlanks_newline, hQuote, skipBlanks_cons (by decide)]
  simp only
  rw [hRead]

/-- No array or object is opened inside as many as may be open. -/
theorem readValue_eq_none {c : Char} (hOpen : c = '[' ∨ c = '\x7b')
    (hFull : maxDepth ≤ stack.length) (rest : List Char) :
    (readValue stack (c :: rest)).toOption = none := by
  rcases hOpen with rfl | rfl
  · rw [readValue, skipBlanks_cons (by decide)]
    simp only
    rw [if_pos hFull]
    rfl
  · rw [readValue, skipBlanks_cons (by decide)]
    simp only
    rw [if_pos hFull]
    rfl

/-! ## What stands behind a value -/

variable {value : Json}

theorem finish_nil : finish [] value [] = .ok value := by
  rw [finish]
  rfl

theorem finish_bracket (items : List Json) (level : Nat) :
    finish (.array items :: stack) value (newline level ++ ']' :: rest) =
      finish stack (.array (items ++ [value])) rest := by
  rw [finish, skipBlanks_newline, skipBlanks_cons (by decide)]
  simp only

theorem finish_brace (members : List (String × Json)) (name : String) (level : Nat) :
    finish (.object members name :: stack) value (newline level ++ '\x7d' :: rest) =
      finish stack (.object (Entries.insert name value members)) rest := by
  rw [finish, skipBlanks_newline, skipBlanks_cons (by decide)]
  simp only

theorem finish_item (items : List Json) (level : Nat) {c : Char}
    (hBlank : isBlank c = false) (hClose : c ≠ ']') :
    finish (.array items :: stack) value (',' :: (newline level ++ c :: rest)) =
      readValue (.array (items ++ [value]) :: stack) (c :: rest) := by
  rw [finish, skipBlanks_cons (by decide)]
  simp only
  rw [skipBlanks_newline, skipBlanks_cons hBlank]
  split
  next hEq => cases hEq
  next hEq =>
    cases hEq
    exact absurd rfl hClose
  · rfl

theorem finish_member (members : List (String × Json)) (last : String) (level : Nat)
    (name : String) :
    finish (.object members last :: stack) value
        (',' :: (newline level ++ (quote name ++ ':' :: rest))) =
      readValue (.object (Entries.insert last value members) name :: stack) rest := by
  obtain ⟨tail, hQuote, hRead⟩ := readName_quote name rest
  rw [finish, skipBlanks_cons (by decide)]
  simp only
  rw [skipBlanks_newline, hQuote, skipBlanks_cons (by decide)]
  simp only
  rw [hRead]

/-- Nothing but a comma or a closing bracket may follow a value. -/
theorem finish_eq_none {c : Char} (hBlank : isBlank c = false) (hComma : c ≠ ',')
    (hBracket : c ≠ ']') (hBrace : c ≠ '\x7d') (rest : List Char) :
    (finish stack value (c :: rest)).toOption = none := by
  have hText : skipBlanks (c :: rest) = c :: rest := skipBlanks_cons hBlank rest
  rw [finish.eq_def]
  split
  · rw [hText]
    rfl
  · rw [hText]
    split
    next hEq => cases hEq
    next hEq =>
      cases hEq
      exact absurd rfl hBracket
    next hEq =>
      cases hEq
      exact absurd rfl hComma
    · rfl
  · rw [hText]
    split
    next hEq => cases hEq
    next hEq =>
      cases hEq
      exact absurd rfl hBrace
    next hEq =>
      cases hEq
      exact absurd rfl hComma
    · rfl

end ConfigStore.Json
