import ConfigStore.Json.Raw
import ConfigStore.Proofs.Json.Strings
import ConfigStore.Proofs.Text.Utf8

/-!
# Strings that are skipped

A string that a document writes is found as it is written, and stands for its text if that is asked
for.

* `Json.splitString?_written`: the quotation mark behind the string is found.
* `Json.Raw.readText?_written`: what stands in front of it is read as the text.
* `Json.tokens?_quote`: the string is one token, whatever stands behind it.
-/

namespace ConfigStore.Json

/-! ## Octets -/

/-- The octet of a byte. -/
theorem toNat_octet (b : UInt8) : (Char.ofNat b.toNat).toNat = b.toNat := by
  have hByte : b.toNat < 256 := b.toNat_lt
  have hValid : b.toNat.isValidChar := .inl (by omega)
  rw [Char.ofNat, dif_pos hValid]
  rfl

theorem bytesOf_octets (bytes : List UInt8) : bytesOf (octets bytes) = bytes := by
  have hByte : ∀ b : UInt8, UInt8.ofNat (Char.ofNat b.toNat).toNat = b := by
    intro b
    rw [toNat_octet, UInt8.ofNat_toNat]
  induction bytes with
  | nil => rfl
  | cons b rest ih => exact List.cons_eq_cons.mpr ⟨hByte b, ih⟩

/-- The octets of a text. -/
def written (text : List Char) : List Char := octets (Utf8.encode text)

theorem written_append (front rest : List Char) :
    written (front ++ rest) = written front ++ written rest := by
  rw [written, Utf8.encode, List.flatMap_append, octets, List.map_append]
  rfl

theorem written_cons {c : Char} (h : c.toNat < 0x80) (rest : List Char) :
    written (c :: rest) = c :: written rest := by
  have hByte : (UInt8.ofNat c.toNat).toNat = c.toNat := Utf8.toNat_byte (by omega)
  rw [written, Utf8.encode, List.flatMap_cons, Utf8.utf8EncodeChar_of_lt h, octets,
    List.singleton_append, List.map_cons, hByte, Char.ofNat_toNat]
  rfl

/-! ## Strings -/

/-- A character that stands for itself within a string. -/
def Plain (c : Char) : Prop := c ≠ '"' ∧ c ≠ '\\' ∧ ¬ c.toNat < 0x20

theorem splitString?_append_plain {front : List Char} (h : ∀ c ∈ front, Plain c)
    (more : List Char) :
    splitString? (front ++ more) = (splitString? more).map (putBefore front) := by
  induction front with
  | nil =>
    change splitString? more = _
    cases splitString? more <;> rfl
  | cons c rest ih =>
    obtain ⟨⟨hQuote, hBackslash, hControl⟩, hRest⟩ := List.forall_mem_cons.mp h
    rw [List.cons_append, splitString?, if_neg hControl, ih hRest, Option.map_map]
    · rfl
    · exact fun hEq => hQuote hEq
    · intro _ _ _ _ _ hEq
      exact absurd hEq hBackslash
    · intro _ _ hEq
      exact absurd hEq hBackslash

/-- The octets of a character beyond ASCII stand for themselves. -/
theorem plain_of_mem_written {c d : Char} (hPlain : Plain c) (h : d ∈ written [c]) : Plain d := by
  by_cases hAscii : c.toNat < 0x80
  · rw [written_cons hAscii] at h
    rwa [List.mem_singleton.mp h]
  · rw [written, Utf8.encode, List.flatMap_singleton] at h
    obtain ⟨b, hByte, rfl⟩ := List.mem_map.mp h
    have hHigh := Utf8.le_of_mem_utf8EncodeChar (Nat.le_of_not_lt hAscii) hByte
    rw [← toNat_octet] at hHigh
    have hBeyond : ∀ mark : Char, mark.toNat < 0x80 → Char.ofNat b.toNat ≠ mark := by
      rintro mark hMark rfl
      omega
    exact ⟨hBeyond '"' (by decide), hBeyond '\\' (by decide), by omega⟩

theorem toNat_lt_of_escaped? {mark c : Char} (h : escaped? mark = some c) : mark.toNat < 0x80 := by
  unfold escaped? at h
  split at h
  next hSelf => rcases hSelf with rfl | rfl | rfl <;> decide
  repeat
    split at h
    next hMark => rw [hMark]; decide
  cases h

/-- A character that is written within a string is skipped. -/
theorem splitString?_escape (c : Char) (more : List Char) :
    splitString? (written (escape c) ++ more) =
      (splitString? more).map (putBefore (written (escape c))) := by
  rcases escape_cases c with ⟨mark, hMark, hEscaped, hEq⟩ | ⟨hControl, hEq⟩ |
    ⟨hQuote, hBackslash, hPlain, hEq⟩
  · have hWritten : written ['\\', mark] = ['\\', mark] := by
      rw [written_cons (by decide), written_cons (toNat_lt_of_escaped? hEscaped)]
      rfl
    rw [hEq, hWritten, List.cons_append, List.cons_append, List.nil_append, splitString?,
      if_pos (by rw [hEscaped]; rfl)]
    intro _ _ _ _ _ hLetter
    exact absurd hLetter hMark
  · have hAll : ∀ n < 0x20,
        written ['\\', 'u', '0', '0', hexDigit (n / 16), hexDigit (n % 16)] =
            ['\\', 'u', '0', '0', hexDigit (n / 16), hexDigit (n % 16)] ∧
          (hexNumber? '0' '0' (hexDigit (n / 16)) (hexDigit (n % 16))).isSome = true := by
      decide +kernel
    obtain ⟨hWritten, hNumber⟩ := hAll _ hControl
    rw [hEq, hWritten]
    exact if_pos hNumber
  · rw [hEq]
    exact splitString?_append_plain
      (fun d hMem => plain_of_mem_written ⟨hQuote, hBackslash, hPlain⟩ hMem) more

/-- The string is split from what stands behind its quotation mark. -/
theorem splitString?_written (text more : List Char) :
    splitString? (written (text.flatMap escape) ++ '"' :: more) =
      some (written (text.flatMap escape), more) := by
  induction text with
  | nil => rfl
  | cons c rest ih =>
    rw [List.flatMap_cons, written_append, List.append_assoc, splitString?_escape, ih]
    rfl

theorem Raw.readText?_written (text : String) :
    Raw.readText? (written (text.toList.flatMap escape)) = some text := by
  rw [Raw.readText?, written, bytesOf_octets, Utf8.decode_encode]
  dsimp only
  rw [String.toList_ofList, readString_flatMap_escape]
  dsimp only
  rw [String.ofList_toList]

/-! ## Tokens -/

section Tokens

variable {first : Char} {token : Token} {rest more : List Char} {others : List Token}

theorem tokens?_cons (hBlank : isBlank first = false)
    (h : readToken? first rest = some (token, more)) (hMore : tokens? more = some others) :
    tokens? (first :: rest) = some (token :: others) := by
  have hText : skipBlanks (first :: rest) = first :: rest :=
    List.dropWhile_cons_of_neg (by rw [hBlank]; exact Bool.false_ne_true)
  rw [tokens?]
  split
  next hNil =>
    rw [hText] at hNil
    cases hNil
  next hCons =>
    rw [hText] at hCons
    cases hCons
    split
    next hNone =>
      rw [h] at hNone
      cases hNone
    next hSome =>
      rw [h] at hSome
      cases hSome
      rw [hMore]
      rfl

theorem tokens?_mark (hBlank : isBlank first = false) (hMark : mark? first = some token)
    (hMore : tokens? more = some others) : tokens? (first :: more) = some (token :: others) := by
  refine tokens?_cons hBlank ?_ hMore
  rw [readToken?, hMark]

/-- A string that is written is one token. -/
theorem tokens?_quote (text : String) (hMore : tokens? more = some others) :
    tokens? (written (quote text) ++ more) =
      some (.text (written (text.toList.flatMap escape)) :: others) := by
  have hQuote : written (quote text) ++ more =
      '"' :: (written (text.toList.flatMap escape) ++ '"' :: more) := by
    rw [quote, List.cons_append, written_cons (by decide), written_append,
      written_cons (by decide), List.cons_append, List.append_assoc]
    rfl
  rw [hQuote]
  refine tokens?_cons rfl ?_ hMore
  change (splitString? _).map _ = _
  rw [splitString?_written]
  rfl

theorem tokens?_null (hMore : tokens? more = some others) :
    tokens? ("null".toList ++ more) = some (.null :: others) :=
  tokens?_cons rfl rfl hMore

end Tokens

end ConfigStore.Json
