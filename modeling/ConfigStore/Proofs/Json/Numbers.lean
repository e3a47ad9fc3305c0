import ConfigStore.Json.Scanner
import ConfigStore.Proofs.Decimal
import ConfigStore.Proofs.Outcome

/-!
# Numbers within a document

* `Json.readNumber_append`: what stands behind a number has no influence on how it is read, as
  long as it does not go on with it.
* `Json.readNumber_toDigits`: the digits of an integer of 64 bits are read back as it.
-/

namespace ConfigStore.Json

open scoped Decimal

/-- A text that does not go on with the number in front of it. -/
def EndsNumber (text : List Char) : Prop :=
  ∀ c rest, text = c :: rest →
    Decimal.digit? c = none ∧ c ≠ '.' ∧ c ≠ 'e' ∧ c ≠ 'E' ∧ c ≠ '+' ∧ c ≠ '-'

theorem endsNumber_nil : EndsNumber [] := by
  intro c rest h
  cases h

/-- What a reader returns, with more text behind it. -/
def behind (more : List Char) (outcome : Except Fault (Number × List Char)) :
    Option (Number × List Char) :=
  outcome.toOption.map fun read => (read.1, read.2 ++ more)

variable {more : List Char} (hMore : EndsNumber more) (negative : Bool)
include hMore

theorem readSignificand_append (significand : Nat) (text : List Char) :
    readSignificand significand (text ++ more) =
      ((readSignificand significand text).1, (readSignificand significand text).2.1,
        (readSignificand significand text).2.2 ++ more) := by
  induction text generalizing significand with
  | nil =>
    cases more with
    | nil => rfl
    | cons c rest => simp [readSignificand, (hMore c rest rfl).1]
  | cons c text ih =>
    rw [List.cons_append, readSignificand, readSignificand]
    cases Decimal.digit? c with
    | none => rfl
    | some d =>
      dsimp only
      split
      · rw [ih]
      · rfl

theorem dropDigits_append (text : List Char) :
    ((text ++ more).dropWhile fun c => (Decimal.digit? c).isSome) =
      (text.dropWhile fun c => (Decimal.digit? c).isSome) ++ more := by
  rw [List.dropWhile_append]
  split
  next hEmpty =>
    rw [List.isEmpty_iff.mp hEmpty, List.nil_append]
    cases more with
    | nil => rfl
    | cons c rest => simp [(hMore c rest rfl).1]
  · rfl

theorem startsWithDigit_append (text : List Char) :
    startsWithDigit (text ++ more) = startsWithDigit text := by
  cases text with
  | nil =>
    cases more with
    | nil => rfl
    | cons c rest => simp [startsWithDigit, (hMore c rest rfl).1]
  | cons c text => rfl

omit hMore in
theorem scaled_append (significand : Nat) (exponent : Int) (text : List Char) :
    (scaled negative significand exponent (text ++ more)).toOption =
      behind more (scaled negative significand exponent text) := by
  rw [scaled, scaled]
  cases scale? (Double.ofNat significand) exponent <;> rfl

theorem readExponentDigits_append (significand : Nat) (start : Int) (minus : Bool) (value : Nat)
    (text : List Char) :
    (readExponentDigits negative significand start minus value (text ++ more)).toOption =
      behind more (readExponentDigits negative significand start minus value text) := by
  induction text generalizing value with
  | nil =>
    rw [readExponentDigits, ← scaled_append, List.nil_append]
    cases more with
    | nil => rw [readExponentDigits]
    | cons c rest =>
      rw [readExponentDigits]
      simp only [(hMore c rest rfl).1]
  | cons c text ih =>
    rw [List.cons_append, readExponentDigits, readExponentDigits]
    cases Decimal.digit? c with
    | none => exact scaled_append negative _ _ (c :: text)
    | some d =>
      dsimp only
      split
      · exact ih _
      · split
        · rfl
        · rw [dropDigits_append hMore]
          rfl

/-- The sign of an exponent, and what stands behind it. -/
def exponentSign : List Char → Bool × List Char
  | '+' :: rest => (false, rest)
  | '-' :: rest => (true, rest)
  | rest => (false, rest)

/-- An exponent is read behind its sign. -/
def readUnsigned (negative : Bool) (significand : Nat) (start : Int) (minus : Bool) :
    List Char → Except Fault (Number × List Char)
  | [] => .error ⟨.endInValue, 0⟩
  | c :: rest =>
    match Decimal.digit? c with
    | some d => readExponentDigits negative significand start minus d rest
    | none => .error (faultAt .invalidNumber (c :: rest))

omit hMore in
theorem readExponent_eq (significand : Nat) (start : Int) (text : List Char) :
    readExponent negative significand start text =
      readUnsigned negative significand start (exponentSign text).1 (exponentSign text).2 := rfl

theorem exponentSign_append (text : List Char) :
    exponentSign (text ++ more) = ((exponentSign text).1, (exponentSign text).2 ++ more) := by
  have hEnd : exponentSign more = (false, more) := by
    unfold exponentSign
    split
    · exact absurd rfl (hMore _ _ rfl).2.2.2.2.1
    · exact absurd rfl (hMore _ _ rfl).2.2.2.2.2
    · rfl
  cases text with
  | nil => exact hEnd
  | cons c text =>
    rw [List.cons_append]
    unfold exponentSign
    split
    next hEq =>
      cases hEq
      rfl
    next hEq =>
      cases hEq
      rfl
    next hPlus hMinus =>
      split
      next hEq =>
        cases hEq
        exact absurd rfl (hPlus _)
      next hEq =>
        cases hEq
        exact absurd rfl (hMinus _)
      · rfl

theorem readExponent_append (significand : Nat) (start : Int) (text : List Char) :
    (readExponent negative significand start (text ++ more)).toOption =
      behind more (readExponent negative significand start text) := by
  rw [readExponent_eq, readExponent_eq, exponentSign_append hMore]
  cases (exponentSign text).2 with
  | nil =>
    cases more with
    | nil => rfl
    | cons c rest =>
      simp [readUnsigned, (hMore c rest rfl).1, behind, Except.toOption]
  | cons c rest =>
    rw [List.cons_append, readUnsigned, readUnsigned]
    cases Decimal.digit? c with
    | none => rfl
    | some d => exact readExponentDigits_append hMore negative _ _ _ _ rest

theorem readScaled_append (significand : Nat) (exponent : Int) (text : List Char) :
    (readScaled negative significand exponent (text ++ more)).toOption =
      behind more (readScaled negative significand exponent text) := by
  cases text with
  | nil =>
    rw [readScaled, ← scaled_append, List.nil_append]
    cases more with
    | nil => rw [readScaled]
    | cons c rest =>
      have hHead := hMore c rest rfl
      rw [readScaled, if_neg (by simp [hHead])]
  | cons c text =>
    rw [List.cons_append, readScaled, readScaled]
    split
    · exact readExponent_append hMore negative significand exponent text
    · exact scaled_append negative significand exponent (c :: text)

theorem readFraction_append (significand : Nat) (exponent : Int) (text : List Char) :
    (readFraction negative significand exponent (text ++ more)).toOption =
      behind more (readFraction negative significand exponent text) := by
  rw [readFraction, readFraction, readSignificand_append hMore]
  generalize readSignificand significand text = read
  obtain ⟨value, count, rest⟩ := read
  dsimp only
  rw [startsWithDigit_append hMore, dropDigits_append hMore]
  split
  · exact readScaled_append hMore negative _ _ _
  · split
    · cases rest <;> cases more <;> rfl
    · exact readScaled_append hMore negative _ _ _

/-- A number is read behind the digits of its integer part that found no room. -/
def readBehindDigits (negative : Bool) (significand : Nat) (skipped : Int) :
    List Char → Except Fault (Number × List Char)
  | '.' :: rest => readFraction negative significand skipped rest
  | rest => readScaled negative significand skipped rest

theorem readBehindDigits_append (significand : Nat) (skipped : Int) (text : List Char) :
    (readBehindDigits negative significand skipped (text ++ more)).toOption =
      behind more (readBehindDigits negative significand skipped text) := by
  have hScaled := readScaled_append hMore negative significand skipped
  cases text with
  | nil =>
    have hEnd : readBehindDigits negative significand skipped more =
        readScaled negative significand skipped more := by
      unfold readBehindDigits
      split
      · exact absurd rfl (hMore _ _ rfl).2.1
      · rfl
    rw [List.nil_append, hEnd]
    exact hScaled []
  | cons c text =>
    by_cases hPoint : c = '.'
    · subst hPoint
      exact readFraction_append hMore negative significand skipped text
    · have hOther : ∀ rest, readBehindDigits negative significand skipped (c :: rest) =
          readScaled negative significand skipped (c :: rest) := by
        intro rest
        rw [readBehindDigits]
        rintro _ ⟨⟩
        exact hPoint rfl
      rw [List.cons_append, hOther, hOther]
      exact hScaled (c :: text)

omit hMore in
theorem readTail_of_digit {text : List Char} (h : startsWithDigit text = true)
    (significand : Nat) :
    readTail negative significand text =
      readBehindDigits negative significand
        ((text.length - (text.dropWhile fun c => (Decimal.digit? c).isSome).length : Nat) : Int)
        (text.dropWhile fun c => (Decimal.digit? c).isSome) := by
  unfold readTail
  rw [if_pos h]
  rfl

omit hMore in
theorem readTail_of_mark {c : Char} (hDigit : Decimal.digit? c = none) (hPoint : c ≠ '.')
    (significand : Nat) (rest : List Char) :
    readTail negative significand (c :: rest) =
      if c = 'e' ∨ c = 'E' then readExponent negative significand 0 rest
      else .ok (wholeNumber negative significand, c :: rest) := by
  rw [readTail, if_neg (by simp [startsWithDigit, hDigit])]
  exact hPoint

/-- What follows a number that is read to its end is left. -/
theorem readTail_eq_whole (significand : Nat) :
    readTail negative significand more = .ok (wholeNumber negative significand, more) := by
  cases more with
  | nil => rfl
  | cons c rest =>
    obtain ⟨hDigit, hPoint, hMark, hMark', -, -⟩ := hMore c rest rfl
    rw [readTail_of_mark negative hDigit hPoint, if_neg (by simp [hMark, hMark'])]

theorem readTail_append (significand : Nat) (text : List Char) :
    (readTail negative significand (text ++ more)).toOption =
      behind more (readTail negative significand text) := by
  cases hDigit : startsWithDigit text with
  | true =>
    have hDigit' := (startsWithDigit_append hMore text).trans hDigit
    rw [readTail_of_digit negative hDigit', readTail_of_digit negative hDigit,
      dropDigits_append hMore, List.length_append, List.length_append, Nat.add_sub_add_right]
    exact readBehindDigits_append hMore negative _ _ _
  | false =>
    cases text with
    | nil =>
      rw [List.nil_append, readTail_eq_whole hMore]
      rfl
    | cons c text =>
      rw [startsWithDigit, Option.isSome_eq_false_iff, Option.isNone_iff_eq_none] at hDigit
      by_cases hPoint : c = '.'
      · subst hPoint
        exact readFraction_append hMore negative significand 0 text
      · rw [List.cons_append, readTail_of_mark negative hDigit hPoint,
          readTail_of_mark negative hDigit hPoint]
        split
        · exact readExponent_append hMore negative significand 0 text
        · rfl

omit hMore in
theorem readNumber_zero {c : Char} (h : Decimal.digit? c = some 0) (rest : List Char) :
    readNumber negative (c :: rest) =
      if startsWithDigit rest then .error (faultAt .invalidNumber rest)
      else readTail negative 0 rest := by
  rw [readNumber, h]
  rfl

omit hMore in
theorem readNumber_digit {c : Char} {d : Nat} (h : Decimal.digit? c = some (d + 1))
    (rest : List Char) :
    readNumber negative (c :: rest) =
      readTail negative (readSignificand (d + 1) rest).1 (readSignificand (d + 1) rest).2.2 := by
  rw [readNumber, h]
  rfl

/-- What stands behind a number has no influence on how it is read. -/
theorem readNumber_append (text : List Char) :
    (readNumber negative (text ++ more)).toOption = behind more (readNumber negative text) := by
  cases text with
  | nil =>
    cases more with
    | nil => rfl
    | cons c rest => simp [readNumber, (hMore c rest rfl).1, behind, Except.toOption]
  | cons c text =>
    rw [List.cons_append]
    cases hDigit : Decimal.digit? c with
    | none => simp [readNumber, hDigit, behind, Except.toOption]
    | some d =>
      cases d with
      | zero =>
        rw [readNumber_zero negative hDigit, readNumber_zero negative hDigit,
          startsWithDigit_append hMore]
        split
        · rfl
        · exact readTail_append hMore negative 0 text
      | succ d =>
        rw [readNumber_digit negative hDigit, readNumber_digit negative hDigit,
          readSignificand_append hMore]
        exact readTail_append hMore negative _ _

omit hMore

/-! ## Integers -/

/-- The digits of a number of 64 bits all find room. -/
theorem readSignificand_of_digitsFrom? {significand n : Nat} {digits : List Char}
    (h : Decimal.digitsFrom? significand digits = some n) (hRoom : n < 2 ^ (64 : Nat)) :
    readSignificand significand digits = (n, digits.length, []) := by
  induction digits generalizing significand with
  | nil =>
    cases h
    rfl
  | cons c rest ih =>
    rw [Decimal.digitsFrom?] at h
    cases hDigit : Decimal.digit? c with
    | none => simp [hDigit] at h
    | some d =>
      rw [hDigit, Nat.mul_comm] at h
      have hLe := Decimal.le_of_digitsFrom? h
      have hFits : significand * 10 + d < 2 ^ (64 : Nat) := Nat.lt_of_le_of_lt hLe hRoom
      rw [readSignificand, hDigit]
      dsimp only
      rw [if_pos hFits, ih h, List.length_cons]

/-- The digits of an integer of 64 bits are read back. -/
theorem readNumber_toDigits {n : Nat} (hRoom : n < 2 ^ (64 : Nat)) :
    readNumber negative (Nat.toDigits 10 n) = .ok (wholeNumber negative n, []) := by
  by_cases hZero : n = 0
  · subst hZero
    rfl
  · obtain ⟨c, rest, d, hDigits, hDigit, hRest⟩ := Decimal.exists_toDigits_eq_cons hZero
    rw [hDigits, readNumber_digit negative hDigit, readSignificand_of_digitsFrom? hRest hRoom]
    rfl

end ConfigStore.Json
