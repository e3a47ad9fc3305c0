import ConfigStore.Proofs.Text.Utf8
import ConfigStore.Text.Percent

/-!
# Percent-encoded texts

* `Percent.decode_encode`: an encoded text is decoded to the bytes of the text, as long as percent
  signs are escaped.
* `Percent.exists_encode_cons`: what the encoding of an escaped character begins with.
-/

namespace ConfigStore.Percent

theorem hexValue?_hexDigit {n : Nat} (h : n < 16) : hexValue? (hexDigit n) = some n := by
  have all : ∀ n < 16, hexValue? (hexDigit n) = some n := by decide
  exact all n h

theorem decode_encodeByte (b : UInt8) (more : List Char) :
    decode (encodeByte b ++ more) = b :: decode more := by
  have hByte : b.toNat < 256 := b.toNat_lt
  have hHigh : hexValue? (hexDigit (b.toNat / 16)) = some (b.toNat / 16) :=
    hexValue?_hexDigit (by omega)
  have hLow : hexValue? (hexDigit (b.toNat % 16)) = some (b.toNat % 16) :=
    hexValue?_hexDigit (by omega)
  have hValue : 16 * (b.toNat / 16) + b.toNat % 16 = b.toNat := by omega
  simp only [encodeByte, List.cons_append, List.nil_append]
  rw [decode, hHigh, hLow]
  simp only
  rw [hValue, UInt8.ofNat_toNat]

theorem decode_flatMap_encodeByte (bytes : List UInt8) (more : List Char) :
    decode (bytes.flatMap encodeByte ++ more) = bytes ++ decode more := by
  induction bytes with
  | nil => rfl
  | cons b bytes ih =>
    rw [List.flatMap_cons, List.append_assoc, decode_encodeByte, ih, List.cons_append]

theorem decode_cons {c : Char} (h : c ≠ '%') (rest : List Char) :
    decode (c :: rest) = String.utf8EncodeChar c ++ decode rest := by
  rw [decode]
  rintro _ _ _ rfl
  exact absurd rfl h

/-- A character that stands for itself leaves its byte. -/
theorem mem_decode {c : Char} (hAscii : c.toNat < 0x80) (hPercent : c ≠ '%')
    (hHex : hexValue? c = none) {text : List Char} (h : c ∈ text) :
    UInt8.ofNat c.toNat ∈ decode text := by
  fun_induction decode text with
  | case1 => cases h
  | case2 high low more m n hLow hHigh ih =>
    simp only [List.mem_cons] at h
    rcases h with rfl | rfl | rfl | hMore
    · exact absurd rfl hPercent
    · rw [hHex] at hHigh
      cases hHigh
    · rw [hHex] at hLow
      cases hLow
    · exact List.mem_cons_of_mem _ (ih hMore)
  | case3 high low more _ ih =>
    exact List.mem_append_right _ (ih ((List.mem_cons.mp h).resolve_left hPercent))
  | case4 d rest _ ih =>
    rw [List.mem_append]
    rcases List.mem_cons.mp h with rfl | hRest
    · rw [Utf8.utf8EncodeChar_of_lt hAscii]
      exact .inl (List.mem_singleton_self _)
    · exact .inr (ih hRest)

variable {escaped : Char → Bool} (hPercent : escaped '%' = true)
include hPercent

theorem decode_encodeChar (c : Char) (more : List Char) :
    decode (encodeChar escaped c ++ more) = String.utf8EncodeChar c ++ decode more := by
  rw [encodeChar]
  split
  · exact decode_flatMap_encodeByte _ _
  next hPlain =>
    apply decode_cons
    rintro rfl
    exact hPlain hPercent

theorem decode_encode_append (text more : List Char) :
    decode (encode escaped text ++ more) = Utf8.encode text ++ decode more := by
  induction text with
  | nil => rfl
  | cons c text ih =>
    rw [encode, List.flatMap_cons, ← encode, List.append_assoc, decode_encodeChar hPercent, ih,
      Utf8.encode, Utf8.encode, List.flatMap_cons, List.append_assoc]

/-- An encoded text is decoded to the bytes of the text. -/
theorem decode_encode (text : List Char) : decode (encode escaped text) = Utf8.encode text := by
  simpa [decode] using decode_encode_append hPercent text []

/-- So are texts that stand behind a slash each. -/
theorem decode_flatMap_slash (texts : List (List Char)) :
    decode (texts.flatMap fun text => '/' :: encode escaped text) =
      Utf8.encode (texts.flatMap fun text => '/' :: text) := by
  induction texts with
  | nil => rfl
  | cons text texts ih =>
    rw [List.flatMap_cons, List.flatMap_cons, List.cons_append, decode_cons (by decide),
      decode_encode_append hPercent, ih, Utf8.encode, Utf8.encode, Utf8.encode, List.cons_append,
      List.flatMap_cons, List.flatMap_append]

omit hPercent in
/-- A text without characters to escape is not changed. -/
theorem encode_of_forall {text : List Char} (h : ∀ c ∈ text, escaped c = false) :
    encode escaped text = text := by
  induction text with
  | nil => rfl
  | cons c text ih =>
    obtain ⟨hChar, hText⟩ := List.forall_mem_cons.mp h
    rw [encode, List.flatMap_cons, ← encode, ih hText, encodeChar, hChar]
    rfl

omit hPercent in
/-- The encoding of an escaped character begins with the digits of a byte that is the first of no
other character. -/
theorem exists_encode_cons {c : Char} (h : escaped c = true) (text : List Char) :
    ∃ b bytes rest, String.utf8EncodeChar c = b :: bytes ∧
      encode escaped (c :: text) =
        '%' :: hexDigit (b.toNat / 16) :: hexDigit (b.toNat % 16) :: rest := by
  obtain ⟨b, bytes, hBytes, -⟩ := Utf8.scan_utf8EncodeChar c []
  refine ⟨b, bytes, bytes.flatMap encodeByte ++ encode escaped text, hBytes, ?_⟩
  rw [encode, List.flatMap_cons, ← encode, encodeChar, if_pos h, hBytes, List.flatMap_cons]
  rfl

end ConfigStore.Percent
