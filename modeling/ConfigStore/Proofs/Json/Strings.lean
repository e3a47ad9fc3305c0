import ConfigStore.Json.Parser
import ConfigStore.Json.Printer
import ConfigStore.Proofs.Outcome
import Mathlib.Tactic.SplitIfs

/-!
# Strings within a document

* `Json.readString_quote`: a string that is written is read back, whatever stands behind it.
* `Json.readName_quote`: so is the name of a member, up to its colon.
-/

namespace ConfigStore.Json

theorem readHex_control {n : Nat} (h : n < 0x20) (more : List Char) :
    readHex ('0' :: '0' :: hexDigit (n / 16) :: hexDigit (n % 16) :: more) = .ok (n, more) := by
  have all : ∀ n < 0x20, hexNumber? '0' '0' (hexDigit (n / 16)) (hexDigit (n % 16)) = some n := by
    decide
  rw [readHex, all n h]

theorem readUnicode_control {c : Char} (h : c.toNat < 0x20) (more : List Char) :
    readUnicode ('0' :: '0' :: hexDigit (c.toNat / 16) :: hexDigit (c.toNat % 16) :: more) =
      .ok (c, more) := by
  rw [readUnicode, readHex_control h, Except.ok_bind]
  dsimp only
  rw [if_neg (by omega), if_pos (by omega), Char.ofNat_toNat]
  rfl

/-- An escape stands for the character behind which the text goes on. -/
theorem readString_backslash {c : Char} {text more : List Char}
    (h : readEscape text = .ok (c, more)) :
    readString ('\\' :: text) = (readString more).map fun read => (c :: read.1, read.2) := by
  rw [readString, if_neg (by decide), if_pos rfl]
  split
  next hError => rw [h] at hError; cases hError
  next hOk =>
    rw [h] at hOk
    cases hOk
    cases readString more <;> rfl

theorem readEscape_escaped {mark c : Char} (hMark : mark ≠ 'u') (h : escaped? mark = some c)
    (more : List Char) : readEscape (mark :: more) = .ok (c, more) := by
  rw [readEscape, if_neg hMark, h]

/-- A character is written as a backslash and a letter, by its number, or as it is. -/
theorem escape_cases (c : Char) :
    (∃ mark, mark ≠ 'u' ∧ escaped? mark = some c ∧ escape c = ['\\', mark]) ∨
      (c.toNat < 0x20 ∧
        escape c = ['\\', 'u', '0', '0', hexDigit (c.toNat / 16), hexDigit (c.toNat % 16)]) ∨
      (c ≠ '"' ∧ c ≠ '\\' ∧ ¬ c.toNat < 0x20 ∧ escape c = [c]) := by
  unfold escape
  split_ifs with hQuote hBackslash hControl hFeed hReturn hTab hBack hForm
  · exact .inl ⟨'"', by decide, by rw [hQuote]; decide, rfl⟩
  · exact .inl ⟨'\\', by decide, by rw [hBackslash]; decide, rfl⟩
  · exact .inl ⟨'n', by decide, by rw [hFeed]; decide, rfl⟩
  · exact .inl ⟨'r', by decide, by rw [hReturn]; decide, rfl⟩
  · exact .inl ⟨'t', by decide, by rw [hTab]; decide, rfl⟩
  · obtain rfl : c = '\x08' := Char.toNat_inj.mp hBack
    exact .inl ⟨'b', by decide, by decide, rfl⟩
  · obtain rfl : c = '\x0c' := Char.toNat_inj.mp hForm
    exact .inl ⟨'f', by decide, by decide, rfl⟩
  · exact .inr (.inl ⟨hControl, rfl⟩)
  · exact .inr (.inr ⟨hQuote, hBackslash, hControl, rfl⟩)

/-- A character that is written is read back. -/
theorem readString_escape (c : Char) (more : List Char) :
    readString (escape c ++ more) = (readString more).map fun read => (c :: read.1, read.2) := by
  rcases escape_cases c with ⟨mark, hMark, hEscaped, hEq⟩ | ⟨hControl, hEq⟩ |
    ⟨hQuote, hBackslash, hPlain, hEq⟩
  · rw [hEq]
    exact readString_backslash (readEscape_escaped hMark hEscaped more)
  · simp only [hEq, List.cons_append, List.nil_append]
    refine readString_backslash ?_
    rw [readEscape, if_pos rfl]
    exact readUnicode_control hControl more
  · rw [hEq, List.singleton_append, readString, if_neg hQuote, if_neg hBackslash, if_neg hPlain]
    cases readString more <;> rfl

/-- A string is read back up to its closing quotation mark. -/
theorem readString_flatMap_escape (text more : List Char) :
    readString (text.flatMap escape ++ '"' :: more) = .ok (text, more) := by
  induction text with
  | nil => rw [List.flatMap_nil, List.nil_append, readString, if_pos rfl]
  | cons c text ih =>
    rw [List.flatMap_cons, List.append_assoc, readString_escape, ih, Except.ok_map]

/-- A string that is written begins with a quotation mark, behind which it is read back. -/
theorem readString_quote (text : String) (more : List Char) :
    ∃ rest, quote text ++ more = '"' :: rest ∧ readString rest = .ok (text.toList, more) := by
  refine ⟨text.toList.flatMap escape ++ '"' :: more, ?_, readString_flatMap_escape _ _⟩
  simp [quote]

/-- The name of a member that is written is read back. -/
theorem readName_quote (name : String) (more : List Char) :
    ∃ rest, quote name ++ ':' :: more = '"' :: rest ∧ readName rest = .ok (name, more) := by
  obtain ⟨rest, hQuote, hRead⟩ := readString_quote name (':' :: more)
  refine ⟨rest, hQuote, ?_⟩
  have hColon : skipBlanks (':' :: more) = ':' :: more := by
    rw [skipBlanks, List.dropWhile_cons_of_neg (by decide)]
  rw [readName, hRead]
  dsimp only
  rw [hColon, String.ofList_toList]
  rfl

end ConfigStore.Json
