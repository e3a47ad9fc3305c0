import ConfigStore.Proofs.Json.Numbers
import ConfigStore.Proofs.Json.Steps

/-!
# The texts of numbers

* `Json.Number.reread?` is the number that the text of a number is read as. It need not be the
  same: the significand of a double is read in 64 bits and scaled by a power of ten.
* `Json.Number.reread?_of_integer`: integers of 64 bits are read back.
* `Json.toOption_readValue_number`: within a document, too, the text of a number is read as that.
-/

namespace ConfigStore.Json

open scoped Decimal

/-! ## Characters -/

/-- A character of the text of a finite number. -/
def isNumeral (c : Char) : Bool :=
  (Decimal.digit? c).isSome || c = '.' || c = 'e' || c = '+' || c = '-'

/-- A character that has a meaning of its own between the values of a document. -/
def isMark (c : Char) : Bool :=
  isBlank c || c = ',' || c = ']' || c = '\x7d' || c = '"' || c = '[' || c = '\x7b'

/-- A text without marks that does not begin like a word. -/
def Unmarked (text : List Char) : Prop :=
  (∃ c rest, text = c :: rest ∧ c ∉ ['n', 't', 'f']) ∧ ∀ c ∈ text, isMark c = false

theorem isMark_of_isNumeral {c : Char} (h : isNumeral c = true) :
    isMark c = false ∧ c ∉ ['n', 't', 'f'] := by
  constructor
  · cases hMark : isMark c with
    | false => rfl
    | true =>
      simp only [isMark, isBlank, Bool.or_eq_true, decide_eq_true_eq] at hMark
      rcases hMark with (((((((((rfl | rfl) | rfl) | rfl) | rfl) | rfl) | rfl) | rfl) | rfl) | rfl)
        <;> cases h
  · intro hLetter
    simp only [List.mem_cons, List.not_mem_nil, or_false] at hLetter
    rcases hLetter with rfl | rfl | rfl <;> cases h

theorem unmarked_of_any {text : List Char}
    (hHead : ∃ c rest, text = c :: rest ∧ c ∉ ['n', 't', 'f']) (h : text.any isMark = false) :
    Unmarked text := by
  rw [List.any_eq_false] at h
  exact ⟨hHead, fun c hMem => Bool.eq_false_iff.mpr (h c hMem)⟩

theorem unmarked_of_isNumeral {text : List Char} (hNe : text ≠ [])
    (h : ∀ c ∈ text, isNumeral c = true) : Unmarked text := by
  refine ⟨?_, fun c hMem => (isMark_of_isNumeral (h c hMem)).1⟩
  obtain ⟨c, rest, rfl⟩ := List.exists_cons_of_ne_nil hNe
  exact ⟨c, rest, rfl, (isMark_of_isNumeral (h c List.mem_cons_self)).2⟩

theorem isNumeral_of_mem_toDigits {c : Char} {n : Nat} (h : c ∈ Nat.toDigits 10 n) :
    isNumeral c = true := by
  simp [isNumeral, Decimal.isSome_digit?_of_mem_toDigits h]

/-- A text whose characters are those of finite numbers. -/
def Numeral (text : String) : Prop := ∀ c ∈ text.toList, isNumeral c = true

theorem Numeral.append {first second : String} (h : Numeral first) (hSecond : Numeral second) :
    Numeral (first ++ second) := by
  intro c hMem
  rw [String.toList_append, List.mem_append] at hMem
  exact hMem.elim (h c) (hSecond c)

theorem numeral_ofList {text : List Char} (h : ∀ c ∈ text, isNumeral c = true) :
    Numeral (String.ofList text) := by
  intro c hMem
  rw [String.toList_ofList] at hMem
  exact h c hMem

theorem numeral_literal {text : String} (h : text.toList.all isNumeral = true) :
    Numeral text := fun c hMem => List.all_eq_true.mp h c hMem

theorem numeral_zeros (count : Nat) : Numeral (Decimal.zeros count) := by
  refine numeral_ofList fun c hMem => ?_
  rw [List.eq_of_mem_replicate hMem]
  decide

theorem numeral_writeInt (value : Int) : Numeral (Decimal.writeInt value) := by
  cases value with
  | ofNat n => exact numeral_ofList fun c hMem => isNumeral_of_mem_toDigits hMem
  | negSucc n =>
    exact (numeral_literal (by decide)).append
      (numeral_ofList fun c hMem => isNumeral_of_mem_toDigits hMem)

section Layout

variable {digits : List Char} (hDigits : ∀ c ∈ digits, isNumeral c = true)
include hDigits

theorem numeral_writePositional (point : Int) {integerEnd : String} (hEnd : Numeral integerEnd) :
    Numeral (Decimal.writePositional digits point integerEnd) := by
  rw [Decimal.writePositional]
  split
  · exact ((numeral_literal (by decide)).append (numeral_zeros _)).append (numeral_ofList hDigits)
  · split
    · exact ((numeral_ofList hDigits).append (numeral_zeros _)).append hEnd
    · refine Numeral.append (.append (numeral_ofList fun c hMem => ?_)
        (numeral_literal (by decide))) (numeral_ofList fun c hMem => ?_)
      · exact hDigits c (List.mem_of_mem_take hMem)
      · exact hDigits c (List.mem_of_mem_drop hMem)

theorem numeral_writeScientific (point : Int) :
    Numeral (Decimal.writeScientific digits point) := by
  have hSign : Numeral (if point - 1 < 0 then "" else "+") := by
    split <;> exact numeral_literal (by decide)
  have hFirst : Numeral (String.ofList (digits.take 1)) :=
    numeral_ofList fun c hMem => hDigits c (List.mem_of_mem_take hMem)
  refine (((hFirst.append ?_).append (numeral_literal (by decide))).append hSign).append
    (numeral_writeInt _)
  split
  · exact numeral_literal (by decide)
  · exact (numeral_literal (by decide)).append
      (numeral_ofList fun c hMem => hDigits c (List.mem_of_mem_drop hMem))

end Layout

theorem numeral_writeSize (significand : Nat) (exponent : Int) :
    Numeral (Decimal.Layout.document.writeSize significand exponent) := by
  have hEnd : Numeral Decimal.Layout.document.integerEnd := numeral_literal (by decide)
  rw [Decimal.Layout.writeSize]
  split
  · exact (numeral_literal (by decide)).append hEnd
  · dsimp only
    split
    · exact numeral_writePositional (fun c hMem => isNumeral_of_mem_toDigits hMem) _ hEnd
    · exact numeral_writeScientific (fun c hMem => isNumeral_of_mem_toDigits hMem) _

theorem toList_append_ne_nil {first second : String}
    (h : first.toList ≠ [] ∨ second.toList ≠ []) : (first ++ second).toList ≠ [] := by
  rw [String.toList_append, Ne, List.append_eq_nil_iff]
  exact fun hBoth => h.elim (· hBoth.1) (· hBoth.2)

theorem toList_writePositional_ne_nil {digits : List Char} (hDigits : digits ≠ []) (point : Int)
    (integerEnd : String) : (Decimal.writePositional digits point integerEnd).toList ≠ [] := by
  rw [Decimal.writePositional]
  split
  · exact toList_append_ne_nil (.inl (toList_append_ne_nil (.inl (by decide))))
  · split
    · refine toList_append_ne_nil (.inl (toList_append_ne_nil (.inl ?_)))
      rwa [String.toList_ofList]
    · exact toList_append_ne_nil (.inl (toList_append_ne_nil (.inr (by decide))))

theorem toList_writeScientific_ne_nil (digits : List Char) (point : Int) :
    (Decimal.writeScientific digits point).toList ≠ [] :=
  toList_append_ne_nil (.inl (toList_append_ne_nil (.inl (toList_append_ne_nil
    (.inr (by decide))))))

theorem toList_writeSize_ne_nil (significand : Nat) (exponent : Int) :
    (Decimal.Layout.document.writeSize significand exponent).toList ≠ [] := by
  rw [Decimal.Layout.writeSize]
  split
  · exact toList_append_ne_nil (.inl (by decide))
  · dsimp only
    split
    · exact toList_writePositional_ne_nil Nat.toDigits_ne_nil _ _
    · exact toList_writeScientific_ne_nil _ _

theorem toList_writeInt_ne_nil (value : Int) : (Decimal.writeInt value).toList ≠ [] := by
  cases value with
  | ofNat n =>
    rw [Decimal.writeInt, Decimal.writeNat, String.toList_ofList]
    exact Nat.toDigits_ne_nil
  | negSucc n => exact toList_append_ne_nil (.inl (by decide))

/-- The text of a number has no marks. -/
theorem Number.unmarked_text (n : Number) : Unmarked n.text.toList := by
  cases n with
  | integer value =>
    exact unmarked_of_isNumeral (toList_writeInt_ne_nil value) (numeral_writeInt value)
  | double value =>
    cases value with
    | nan => exact unmarked_of_any ⟨'N', _, rfl, by decide⟩ (by decide)
    | infinite negative =>
      cases negative with
      | false => exact unmarked_of_any ⟨'i', _, rfl, by decide⟩ (by decide)
      | true => exact unmarked_of_any ⟨'-', _, rfl, by decide⟩ (by decide)
    | finite negative significand exponent =>
      refine unmarked_of_isNumeral
        (toList_append_ne_nil (.inr (toList_writeSize_ne_nil significand exponent))) ?_
      refine Numeral.append ?_ (numeral_writeSize significand exponent)
      split <;> exact numeral_literal (by decide)

/-! ## Reading -/

/-- A number that is read with nothing left behind it. -/
def complete? : Except Fault (Number × List Char) → Option Number
  | .ok (n, []) => some n
  | _ => none

/-- The number that a text is read as from its beginning to its end. -/
def numberOf? : List Char → Option Number
  | '-' :: text => complete? (readNumber true text)
  | text => complete? (readNumber false text)

/-- The number that the text of a number is read as. -/
def Number.reread? (n : Number) : Option Number := numberOf? n.text.toList

variable {stack : List Frame} {rest : List Char}

/-- Behind a number without marks that is not read to its end, the document cannot go on. -/
theorem finish_complete? (hRest : EndsNumber rest) (negative : Bool) {text : List Char}
    (hText : ∀ c ∈ text, isMark c = false) :
    ((readNumber negative (text ++ rest)).toOption.bind fun read =>
        (finish stack (.number read.1) read.2).toOption) =
      (complete? (readNumber negative text)).bind fun n =>
        (finish stack (.number n) rest).toOption := by
  rw [readNumber_append hRest, behind]
  cases hRead : readNumber negative text with
  | error fault => rfl
  | ok read =>
    obtain ⟨n, left⟩ := read
    cases left with
    | nil => rfl
    | cons c left =>
      obtain ⟨-, first, tail, rfl, hSuffix⟩ := readNumber_ok hRead
      have hMark := hText c (List.mem_cons_of_mem _ (hSuffix.subset List.mem_cons_self))
      simp only [isMark, Bool.or_eq_false_iff, decide_eq_false_iff_not] at hMark
      exact finish_eq_none hMark.1.1.1.1.1.1 hMark.1.1.1.1.1.2 hMark.1.1.1.1.2 hMark.1.1.1.2 _

/-- A text without marks is read as a number or not at all. -/
theorem toOption_readValue_unmarked (hRest : EndsNumber rest) {text : List Char}
    (hText : Unmarked text) :
    (readValue stack (text ++ rest)).toOption =
      (numberOf? text).bind fun n => (finish stack (.number n) rest).toOption := by
  obtain ⟨⟨c, tail, rfl, hHead⟩, hMarks⟩ := hText
  by_cases hMinus : c = '-'
  · subst hMinus
    rw [List.cons_append, readValue_minus]
    exact finish_complete? hRest true fun d hMem => hMarks d (List.mem_cons_of_mem _ hMem)
  · have hOf : numberOf? (c :: tail) = complete? (readNumber false (c :: tail)) := by
      rw [numberOf?]
      rintro _ ⟨⟩
      exact hMinus rfl
    rw [hOf]
    cases hDigit : Decimal.digit? c with
    | some d =>
      rw [List.cons_append, readValue_digit (by rw [hDigit]; rfl), ← List.cons_append]
      exact finish_complete? hRest false hMarks
    | none =>
      have hMark := hMarks c List.mem_cons_self
      simp only [isMark, Bool.or_eq_false_iff, decide_eq_false_iff_not] at hMark
      rw [List.cons_append, readValue_eq_none_of_head hMark.1.1.1.1.1.1 hDigit (by simp_all)]
      simp [readNumber, hDigit, complete?]

/-- Within a document, the text of a number is read as it is read on its own. -/
theorem toOption_readValue_number (hRest : EndsNumber rest) (n : Number) :
    (readValue stack (n.text.toList ++ rest)).toOption =
      n.reread?.bind fun m => (finish stack (.number m) rest).toOption :=
  toOption_readValue_unmarked hRest n.unmarked_text

theorem Number.reread?_eq_some_iff {n m : Number} :
    n.reread? = some m ↔ read n.text = .ok (.number m) := by
  have hRead : (readValue [] n.text.toList).toOption = n.reread?.map .number := by
    have h : (readValue [] (n.text.toList ++ [])).toOption =
        n.reread?.bind fun m => (finish [] (.number m) []).toOption :=
      toOption_readValue_number endsNumber_nil n
    simp only [List.append_nil, finish_nil] at h
    rw [h]
    cases n.reread? <;> rfl
  rw [read, Except.mapError_eq_ok_iff, ← Except.toOption_eq_some_iff, hRead]
  simp

/-- The significand of a double is rounded before it is scaled, so that a neighbour can be read. -/
example : (Number.double (.finite false 7754292064314886 (-148))).reread? =
    some (.double (.finite false 7754292064314885 (-148))) := by
  decide +kernel

theorem numberOf?_toDigits {n : Nat} (hRoom : n < 2 ^ (64 : Nat)) :
    numberOf? (Nat.toDigits 10 n) = some (wholeNumber false n) := by
  have hSign : ∀ text, Nat.toDigits 10 n ≠ '-' :: text := by
    intro text hEq
    have := Decimal.isSome_digit?_of_mem_toDigits (hEq ▸ List.mem_cons_self)
    exact absurd this (by decide)
  rw [numberOf?]
  · rw [readNumber_toDigits false hRoom, complete?]
  · exact hSign

/-- Integers of 64 bits are read back. -/
theorem Number.reread?_of_integer {value : Int} (h : (Number.integer value).InRange) :
    (Number.integer value).reread? = some (.integer value) := by
  obtain ⟨hLow, hHigh⟩ := h
  cases value with
  | ofNat n =>
    have hText : (Number.integer (.ofNat n)).text.toList = Nat.toDigits 10 n :=
      String.toList_ofList
    have hRoom : n < 2 ^ (64 : Nat) := by
      simp only [Int.ofNat_eq_natCast] at hHigh
      omega
    rw [reread?, hText, numberOf?_toDigits hRoom]
    rfl
  | negSucc n =>
    have hText : (Number.integer (.negSucc n)).text.toList = '-' :: Nat.toDigits 10 (n + 1) := by
      simp [text, Decimal.writeInt, Decimal.writeNat]
    have hRoom : n + 1 ≤ 2 ^ (63 : Nat) := by
      rw [Int.negSucc_eq] at hLow
      omega
    rw [reread?, hText, numberOf?, readNumber_toDigits true (by omega), complete?, wholeNumber,
      if_neg (by simp), if_neg (by omega)]
    rfl

end ConfigStore.Json
