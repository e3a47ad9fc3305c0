import ConfigStore.Text.Utf8
import ConfigStore.Proofs.Outcome

/-!
# Texts as bytes

* `Utf8.scan_utf8EncodeChar`: the bytes of a character are read back as it.
* `Utf8.decode_encode`: so are the bytes of a text.
* `Utf8.decode_eq_ok_iff`: no other bytes are read, so that bytes are those of one text at most.
* `Utf8.decodeLossy_encode`: in the bytes of a text nothing is replaced.
* `Utf8.encode_lt_encode_iff`: texts are ordered as their bytes are.
-/

namespace ConfigStore.Utf8

theorem toNat_byte {n : Nat} (h : n < 256) : (UInt8.ofNat n).toNat = n := by
  rw [UInt8.toNat_ofNat']
  exact Nat.mod_eq_of_lt h

/-- A byte that carries six bits of a character is in the range that is asked for. -/
theorem scanTails_byte {low high : UInt8} {bits taken tails n : Nat} (hBits : n < 64)
    (hLow : low.toNat ≤ n + 128) (hHigh : n + 128 ≤ high.toNat) (rest : List UInt8) :
    scanTails (tails + 1) low high bits taken (UInt8.ofNat (n + 128) :: rest) =
      scanTails tails 0x80 0xBF (bits * 64 + n) (taken + 1) rest := by
  have hByte : (UInt8.ofNat (n + 128)).toNat = n + 128 := toNat_byte (by omega)
  have hRange : low ≤ UInt8.ofNat (n + 128) ∧ UInt8.ofNat (n + 128) ≤ high := by
    rw [UInt8.le_iff_toNat_le, UInt8.le_iff_toNat_le, hByte]
    exact ⟨hLow, hHigh⟩
  rw [scanTails, if_pos hRange, hByte]
  congr 2
  omega

theorem scan_of_lead {b : UInt8} {lead : Lead} (h : lead? b = some lead) (rest : List UInt8) :
    scan b rest = scanTails lead.tails lead.low lead.high lead.bits 1 rest := by
  rw [scan, h]

theorem lead?_ofNat {n : Nat} (h : n < 256) :
    lead? (UInt8.ofNat n) =
      if n < 0x80 then some ⟨0, 0x80, 0xBF, n⟩
      else if n < 0xC2 then none
      else if n < 0xE0 then some ⟨1, 0x80, 0xBF, n - 0xC0⟩
      else if n = 0xE0 then some ⟨2, 0xA0, 0xBF, 0⟩
      else if n = 0xED then some ⟨2, 0x80, 0x9F, n - 0xE0⟩
      else if n < 0xF0 then some ⟨2, 0x80, 0xBF, n - 0xE0⟩
      else if n = 0xF0 then some ⟨3, 0x90, 0xBF, 0⟩
      else if n < 0xF4 then some ⟨3, 0x80, 0xBF, n - 0xF0⟩
      else if n = 0xF4 then some ⟨3, 0x80, 0x8F, n - 0xF0⟩
      else none := by
  unfold lead?
  rw [toNat_byte h]

section Characters

variable {v : Nat} (more : List UInt8)

theorem scan_one (h : v < 0x80) : scan (UInt8.ofNat v) more = .char (Char.ofNat v) more := by
  rw [scan_of_lead (lead?_ofNat (by omega) |>.trans (if_pos h))]
  rfl

theorem scan_two (hLow : 0x80 ≤ v) (hHigh : v < 0x800) :
    scan (UInt8.ofNat (v / 64 % 32 + 192)) (UInt8.ofNat (v % 64 + 128) :: more) =
      .char (Char.ofNat v) more := by
  have hLead : lead? (UInt8.ofNat (v / 64 % 32 + 192)) = some ⟨1, 0x80, 0xBF, v / 64⟩ := by
    rw [lead?_ofNat (by omega), if_neg (by omega), if_neg (by omega), if_pos (by omega),
      show v / 64 % 32 + 192 - 0xC0 = v / 64 by omega]
  have hBits : v / 64 * 64 + v % 64 = v := by omega
  rw [scan_of_lead hLead, scanTails_byte (by omega) (by simp) (by simp; omega), scanTails]
  dsimp only
  rw [hBits]

/-- The second byte of three is bounded where a shorter form exists and where surrogates are. -/
theorem lead?_three (hLow : 0x800 ≤ v) (hHigh : v < 0x10000)
    (hSurrogate : v < 0xD800 ∨ 0xDFFF < v) :
    ∃ low high, lead? (UInt8.ofNat (v / 4096 % 16 + 224)) = some ⟨2, low, high, v / 4096⟩ ∧
      low.toNat ≤ v / 64 % 64 + 128 ∧ v / 64 % 64 + 128 ≤ high.toNat := by
  rw [lead?_ofNat (by omega), if_neg (by omega), if_neg (by omega), if_neg (by omega)]
  by_cases hFirst : v / 4096 % 16 + 224 = 0xE0
  · refine ⟨0xA0, 0xBF, ?_, by simp; omega, by simp; omega⟩
    rw [if_pos hFirst, show v / 4096 = 0 by omega]
  · rw [if_neg hFirst]
    have hBits : v / 4096 % 16 + 224 - 0xE0 = v / 4096 := by omega
    by_cases hLast : v / 4096 % 16 + 224 = 0xED
    · refine ⟨0x80, 0x9F, ?_, by simp, by simp; omega⟩
      rw [if_pos hLast, hBits]
    · refine ⟨0x80, 0xBF, ?_, by simp, by simp; omega⟩
      rw [if_neg hLast, if_pos (by omega), hBits]

theorem scan_three (hLow : 0x800 ≤ v) (hHigh : v < 0x10000)
    (hSurrogate : v < 0xD800 ∨ 0xDFFF < v) :
    scan (UInt8.ofNat (v / 4096 % 16 + 224))
        (UInt8.ofNat (v / 64 % 64 + 128) :: UInt8.ofNat (v % 64 + 128) :: more) =
      .char (Char.ofNat v) more := by
  obtain ⟨low, high, hLead, hLower, hUpper⟩ := lead?_three hLow hHigh hSurrogate
  rw [scan_of_lead hLead, scanTails_byte (by omega) hLower hUpper,
    scanTails_byte (by omega) (by simp) (by simp; omega), scanTails]
  have hBits : (v / 4096 * 64 + v / 64 % 64) * 64 + v % 64 = v := by omega
  dsimp only
  rw [hBits]

/-- The second byte of four is bounded where a shorter form exists and where characters end. -/
theorem lead?_four (hLow : 0x10000 ≤ v) (hHigh : v < 0x110000) :
    ∃ low high, lead? (UInt8.ofNat (v / 262144 % 8 + 240)) = some ⟨3, low, high, v / 262144⟩ ∧
      low.toNat ≤ v / 4096 % 64 + 128 ∧ v / 4096 % 64 + 128 ≤ high.toNat := by
  rw [lead?_ofNat (by omega), if_neg (by omega), if_neg (by omega), if_neg (by omega),
    if_neg (by omega), if_neg (by omega), if_neg (by omega)]
  by_cases hFirst : v / 262144 % 8 + 240 = 0xF0
  · refine ⟨0x90, 0xBF, ?_, by simp; omega, by simp; omega⟩
    rw [if_pos hFirst, show v / 262144 = 0 by omega]
  · rw [if_neg hFirst]
    have hBits : v / 262144 % 8 + 240 - 0xF0 = v / 262144 := by omega
    by_cases hMiddle : v / 262144 % 8 + 240 < 0xF4
    · refine ⟨0x80, 0xBF, ?_, by simp, by simp; omega⟩
      rw [if_pos hMiddle, hBits]
    · refine ⟨0x80, 0x8F, ?_, by simp, by simp; omega⟩
      rw [if_neg hMiddle, if_pos (by omega), hBits]

theorem scan_four (hLow : 0x10000 ≤ v) (hHigh : v < 0x110000) :
    scan (UInt8.ofNat (v / 262144 % 8 + 240))
        (UInt8.ofNat (v / 4096 % 64 + 128) :: UInt8.ofNat (v / 64 % 64 + 128) ::
          UInt8.ofNat (v % 64 + 128) :: more) =
      .char (Char.ofNat v) more := by
  obtain ⟨low, high, hLead, hLower, hUpper⟩ := lead?_four hLow hHigh
  rw [scan_of_lead hLead, scanTails_byte (by omega) hLower hUpper,
    scanTails_byte (by omega) (by simp) (by simp; omega),
    scanTails_byte (by omega) (by simp) (by simp; omega), scanTails]
  have hBits : ((v / 262144 * 64 + v / 4096 % 64) * 64 + v / 64 % 64) * 64 + v % 64 = v := by
    omega
  dsimp only
  rw [hBits]

end Characters

/-- The bytes of a character are read back as it. -/
theorem scan_utf8EncodeChar (c : Char) (more : List UInt8) :
    ∃ b rest, String.utf8EncodeChar c = b :: rest ∧ scan b (rest ++ more) = .char c more := by
  have hValid : c.toNat < 0xD800 ∨ (0xDFFF < c.toNat ∧ c.toNat < 0x110000) := c.valid
  have hChar : Char.ofNat c.toNat = c := Char.ofNat_toNat c
  unfold String.utf8EncodeChar
  generalize hValue : c.val.toNat = v
  have hValue : c.toNat = v := hValue
  rw [hValue] at hValid hChar
  dsimp only
  split
  · exact ⟨_, _, rfl, (scan_one more (by omega)).trans (by rw [hChar])⟩
  · split
    · exact ⟨_, _, rfl, (scan_two more (by omega) (by omega)).trans (by rw [hChar])⟩
    · split
      · exact ⟨_, _, rfl,
          (scan_three more (by omega) (by omega) (by omega)).trans (by rw [hChar])⟩
      · exact ⟨_, _, rfl, (scan_four more (by omega) (by omega)).trans (by rw [hChar])⟩

theorem decodeFrom_utf8EncodeChar (index : Nat) (c : Char) (more : List UInt8) :
    decodeFrom index (String.utf8EncodeChar c ++ more) =
      (decodeFrom (index + c.utf8Size) more).map (c :: ·) := by
  obtain ⟨b, rest, hBytes, hScan⟩ := scan_utf8EncodeChar c more
  rw [hBytes, List.cons_append, decodeFrom, hScan]
  simp only
  cases decodeFrom (index + c.utf8Size) more <;> rfl

theorem decodeFrom_encode (index : Nat) (text : List Char) :
    decodeFrom index (encode text) = .ok text := by
  induction text generalizing index with
  | nil => rw [encode, List.flatMap_nil, decodeFrom]
  | cons c text ih =>
    rw [encode, List.flatMap_cons, ← encode, decodeFrom_utf8EncodeChar, ih, Except.ok_map]

/-- The bytes of a text are read back as it. -/
theorem decode_encode (text : List Char) : decode (encode text) = .ok (String.ofList text) := by
  rw [decode, decodeFrom_encode, Except.ok_map]

/-! ## Bytes that were read -/

/-- What a character that was read went on with, if bytes of it were missing. -/
theorem scanTails_eq_char {low high : UInt8} {bits taken tails : Nat} {bytes more : List UInt8}
    {c : Char} (h : scanTails (tails + 1) low high bits taken bytes = .char c more) :
    ∃ b rest, bytes = b :: rest ∧ low.toNat ≤ b.toNat ∧ b.toNat ≤ high.toNat ∧
      scanTails tails 0x80 0xBF (bits * 64 + b.toNat % 64) (taken + 1) rest = .char c more := by
  cases bytes with
  | nil => cases h
  | cons b rest =>
    rw [scanTails] at h
    split at h
    next hRange =>
      exact ⟨b, rest, rfl, UInt8.le_iff_toNat_le.mp hRange.1, UInt8.le_iff_toNat_le.mp hRange.2, h⟩
    · cases h

/-- The first bytes of characters, by the number of bytes that follow. -/
theorem lead?_eq_some {b : UInt8} {lead : Lead} (h : lead? b = some lead) :
    (lead = ⟨0, 0x80, 0xBF, b.toNat⟩ ∧ b.toNat < 0x80) ∨
    (lead = ⟨1, 0x80, 0xBF, b.toNat - 0xC0⟩ ∧ 0xC2 ≤ b.toNat ∧ b.toNat < 0xE0) ∨
    (∃ low high, lead = ⟨2, low, high, b.toNat - 0xE0⟩ ∧ 0xE0 ≤ b.toNat ∧ b.toNat < 0xF0 ∧
      0x80 ≤ low.toNat ∧ high.toNat ≤ 0xBF ∧ (b.toNat = 0xE0 → 0xA0 ≤ low.toNat) ∧
      (b.toNat = 0xED → high.toNat ≤ 0x9F)) ∨
    ∃ low high, lead = ⟨3, low, high, b.toNat - 0xF0⟩ ∧ 0xF0 ≤ b.toNat ∧ b.toNat ≤ 0xF4 ∧
      0x80 ≤ low.toNat ∧ high.toNat ≤ 0xBF ∧ (b.toNat = 0xF0 → 0x90 ≤ low.toNat) ∧
      (b.toNat = 0xF4 → high.toNat ≤ 0x8F) := by
  have hByte : b.toNat < 256 := b.toNat_lt
  unfold lead? at h
  generalize b.toNat = n at h hByte ⊢
  dsimp only at h
  split at h
  · cases h
    exact .inl ⟨rfl, by omega⟩
  split at h
  · cases h
  split at h
  · cases h
    exact .inr (.inl ⟨rfl, by omega, by omega⟩)
  split at h
  · cases h
    exact .inr (.inr (.inl ⟨0xA0, 0xBF, by simp; omega, by simp; omega⟩))
  split at h
  · cases h
    exact .inr (.inr (.inl ⟨0x80, 0x9F, rfl, by simp; omega⟩))
  split at h
  · cases h
    exact .inr (.inr (.inl ⟨0x80, 0xBF, rfl, by simp; omega⟩))
  split at h
  · cases h
    exact .inr (.inr (.inr ⟨0x90, 0xBF, by simp; omega, by simp; omega⟩))
  split at h
  · cases h
    exact .inr (.inr (.inr ⟨0x80, 0xBF, rfl, by simp; omega⟩))
  split at h
  · cases h
    exact .inr (.inr (.inr ⟨0x80, 0x8F, rfl, by simp; omega⟩))
  · cases h

theorem utf8EncodeChar_ofNat {v : Nat} (h : v.isValidChar) :
    String.utf8EncodeChar (Char.ofNat v) =
      if v ≤ 0x7F then [UInt8.ofNat v]
      else if v ≤ 0x7FF then [UInt8.ofNat (v / 64 % 32 + 192), UInt8.ofNat (v % 64 + 128)]
      else if v ≤ 0xFFFF then
        [UInt8.ofNat (v / 4096 % 16 + 224), UInt8.ofNat (v / 64 % 64 + 128),
          UInt8.ofNat (v % 64 + 128)]
      else
        [UInt8.ofNat (v / 262144 % 8 + 240), UInt8.ofNat (v / 4096 % 64 + 128),
          UInt8.ofNat (v / 64 % 64 + 128), UInt8.ofNat (v % 64 + 128)] := by
  have hValue : (Char.ofNat v).val.toNat = v := by
    rw [Char.ofNat, dif_pos h]
    rfl
  unfold String.utf8EncodeChar
  rw [hValue]

theorem byte_eq {n : Nat} {b : UInt8} (h : n = b.toNat) : UInt8.ofNat n = b := by
  rw [h, UInt8.ofNat_toNat]

/-- Bytes below 128 are those of as many characters. -/
theorem encode_of_ascii {bytes : List UInt8} (h : ∀ b ∈ bytes, b.toNat < 0x80) :
    encode (bytes.map fun b => Char.ofNat b.toNat) = bytes := by
  induction bytes with
  | nil => rfl
  | cons b rest ih =>
    rw [List.forall_mem_cons] at h
    rw [List.map_cons, encode, List.flatMap_cons, ← encode, ih h.2,
      utf8EncodeChar_ofNat (.inl (by omega)), if_pos (by omega), byte_eq rfl]
    rfl

theorem utf8EncodeChar_of_lt {c : Char} (h : c.toNat < 0x80) :
    String.utf8EncodeChar c = [UInt8.ofNat c.toNat] := by
  have hBytes := utf8EncodeChar_ofNat (v := c.toNat) c.valid
  rwa [Char.ofNat_toNat, if_pos (Nat.le_of_lt_succ h)] at hBytes

theorem le_of_mem_utf8EncodeChar {b : UInt8} {c : Char} (h : 0x80 ≤ c.toNat)
    (hMem : b ∈ String.utf8EncodeChar c) : 0x80 ≤ b.toNat := by
  have hBytes := utf8EncodeChar_ofNat (v := c.toNat) c.valid
  rw [Char.ofNat_toNat, if_neg (by omega)] at hBytes
  have hLast : ∀ n, 0x80 ≤ n → n < 256 → 0x80 ≤ (UInt8.ofNat n).toNat :=
    fun n hLow hHigh => (toNat_byte hHigh).symm ▸ hLow
  rw [hBytes] at hMem
  split at hMem
  · simp only [List.mem_cons, List.not_mem_nil, or_false] at hMem
    rcases hMem with rfl | rfl <;> exact hLast _ (by omega) (by omega)
  · split at hMem
    · simp only [List.mem_cons, List.not_mem_nil, or_false] at hMem
      rcases hMem with rfl | rfl | rfl <;> exact hLast _ (by omega) (by omega)
    · simp only [List.mem_cons, List.not_mem_nil, or_false] at hMem
      rcases hMem with rfl | rfl | rfl | rfl <;> exact hLast _ (by omega) (by omega)

/-- A byte below 128 is that of a character. -/
theorem mem_of_byte_mem_encode {c : Char} (hAscii : c.toNat < 0x80) {text : List Char}
    (h : UInt8.ofNat c.toNat ∈ encode text) : c ∈ text := by
  have hByte : (UInt8.ofNat c.toNat).toNat = c.toNat := toNat_byte (by omega)
  obtain ⟨d, hMem, hBytes⟩ := List.mem_flatMap.mp h
  have hLow : d.toNat < 0x80 := by
    apply Nat.lt_of_not_le
    intro hHigh
    have hLe := le_of_mem_utf8EncodeChar hHigh hBytes
    omega
  rw [utf8EncodeChar_of_lt hLow, List.mem_singleton, ← UInt8.toNat_inj, hByte,
    toNat_byte (by omega)] at hBytes
  rwa [Char.toNat_inj.mp hBytes]

/-- The bytes from which a character was read are those of the character. -/
theorem cons_eq_of_scan {b : UInt8} {rest more : List UInt8} {c : Char}
    (h : scan b rest = .char c more) : b :: rest = String.utf8EncodeChar c ++ more := by
  have hFirst : (0x80 : UInt8).toNat = 0x80 := rfl
  have hLast : (0xBF : UInt8).toNat = 0xBF := rfl
  rw [scan] at h
  split at h
  · cases h
  next lead hLead =>
    rcases lead?_eq_some hLead with ⟨rfl, hOne⟩ | ⟨rfl, hTwo⟩ | ⟨low, high, rfl, hThree⟩ |
      ⟨low, high, rfl, hFour⟩
    · dsimp only at h
      cases h
      rw [utf8EncodeChar_ofNat (.inl (by omega)), if_pos (by omega), byte_eq rfl]
      rfl
    · obtain ⟨second, rest, rfl, hLow, hHigh, h⟩ := scanTails_eq_char h
      dsimp only at h hLow hHigh
      cases h
      rw [utf8EncodeChar_ofNat (.inl (by omega)), if_neg (by omega), if_pos (by omega),
        byte_eq (b := b) (by omega), byte_eq (b := second) (by omega)]
      rfl
    · obtain ⟨second, rest, rfl, hLow, hHigh, h⟩ := scanTails_eq_char h
      obtain ⟨third, rest, rfl, hLow', hHigh', h⟩ := scanTails_eq_char h
      dsimp only at h hLow hHigh
      cases h
      rw [utf8EncodeChar_ofNat (by simp only [Nat.isValidChar]; omega), if_neg (by omega),
        if_neg (by omega), if_pos (by omega), byte_eq (b := b) (by omega),
        byte_eq (b := second) (by omega), byte_eq (b := third) (by omega)]
      rfl
    · obtain ⟨second, rest, rfl, hLow, hHigh, h⟩ := scanTails_eq_char h
      obtain ⟨third, rest, rfl, hLow', hHigh', h⟩ := scanTails_eq_char h
      obtain ⟨fourth, rest, rfl, hLow'', hHigh'', h⟩ := scanTails_eq_char h
      dsimp only at h hLow hHigh
      cases h
      rw [utf8EncodeChar_ofNat (by simp only [Nat.isValidChar]; omega), if_neg (by omega),
        if_neg (by omega), if_neg (by omega), byte_eq (b := b) (by omega),
        byte_eq (b := second) (by omega), byte_eq (b := third) (by omega),
        byte_eq (b := fourth) (by omega)]
      rfl

theorem eq_encode_of_decodeFrom {index : Nat} {bytes : List UInt8} {text : List Char}
    (h : decodeFrom index bytes = .ok text) : bytes = encode text := by
  fun_induction decodeFrom index bytes generalizing text with
  | case1 =>
    cases h
    rfl
  | case2 index b rest c more hScan ih =>
    obtain ⟨chars, hChars, h⟩ := Except.bind_eq_ok_iff.mp h
    cases h
    rw [cons_eq_of_scan hScan, ih hChars]
    rfl
  | case3 | case4 => cases h

/-- The bytes that can be read are those of a text. -/
theorem decode_eq_ok_iff {bytes : List UInt8} {text : String} :
    decode bytes = .ok text ↔ bytes = encode text.toList := by
  constructor
  · intro h
    obtain ⟨chars, hChars, rfl⟩ := Except.map_eq_ok_iff.mp h
    rw [String.toList_ofList]
    exact eq_encode_of_decodeFrom hChars
  · rintro rfl
    rw [decode_encode, String.ofList_toList]

/-- A text begins with a character if its bytes begin with those of the character. -/
theorem utf8EncodeChar_prefix_iff {c : Char} {text : List Char} :
    String.utf8EncodeChar c <+: encode text ↔ text.head? = some c := by
  constructor
  · rintro ⟨more, hMore⟩
    have hText := decodeFrom_encode 0 text
    rw [← hMore, decodeFrom_utf8EncodeChar] at hText
    obtain ⟨chars, -, rfl⟩ := Except.map_eq_ok_iff.mp hText
    rfl
  · intro hHead
    obtain ⟨rest, rfl⟩ := List.head?_eq_some_iff.mp hHead
    exact ⟨encode rest, rfl⟩

/-- Different texts have different bytes. -/
theorem encode_injective {text other : List Char} (h : encode text = encode other) :
    text = other :=
  Except.ok.inj ((decodeFrom_encode 0 text).symm.trans (h ▸ decodeFrom_encode 0 other))

/-- Where bytes are those of a text, nothing is replaced. -/
theorem decodeLossy_encode (text : List Char) : decodeLossy (encode text) = String.ofList text := by
  rw [decodeLossy]
  congr
  induction text with
  | nil => rw [encode, List.flatMap_nil, decodeLossyChars]
  | cons c text ih =>
    obtain ⟨b, rest, hBytes, hScan⟩ := scan_utf8EncodeChar c (encode text)
    rw [encode, List.flatMap_cons, ← encode, hBytes, List.cons_append, decodeLossyChars, hScan]
    exact congrArg (c :: ·) ih

/-! ## Order -/

/-- The first bytes decide the order, or if they agree what stands behind them. -/
theorem cons_ofNat_lt_iff {m n : Nat} (hm : m < 256) (hn : n < 256) {more others : List UInt8} :
    UInt8.ofNat m :: more < UInt8.ofNat n :: others ↔ m < n ∨ m = n ∧ more < others := by
  rw [List.cons_lt_cons_iff, UInt8.lt_iff_toNat_lt, ← UInt8.toNat_inj, toNat_byte hm,
    toNat_byte hn]

/-- The bytes of the smaller character come first, whatever stands behind them. -/
theorem utf8EncodeChar_lt {c d : Char} (h : c < d) (more others : List UInt8) :
    String.utf8EncodeChar c ++ more < String.utf8EncodeChar d ++ others := by
  have hLess : c.val.toNat < d.val.toNat := h
  have hValid : d.toNat < 0xD800 ∨ (0xDFFF < d.toNat ∧ d.toNat < 0x110000) := d.valid
  have hBound : d.val.toNat < 0x110000 := by
    change d.toNat < 0x110000
    omega
  clear hValid
  unfold String.utf8EncodeChar
  generalize c.val.toNat = v at *
  generalize d.val.toNat = w at *
  have hTwo : ∀ n : Nat, n / 4096 = n / 64 / 64 := fun n => (Nat.div_div_eq_div_mul n 64 64).symm
  have hThree : ∀ n : Nat, n / 262144 = n / 64 / 64 / 64 := fun n => by
    rw [Nat.div_div_eq_div_mul, Nat.div_div_eq_div_mul]
  dsimp only
  -- one case for each pair of lengths
  repeat' split
  all_goals
    simp (disch := omega) only [List.cons_append, List.nil_append, cons_ofNat_lt_iff, hTwo, hThree]
    omega

theorem encode_lt_of_lt {text other : List Char} (h : text < other) :
    encode text < encode other := by
  induction text generalizing other with
  | nil =>
    cases other with
    | nil => cases h
    | cons d rest =>
      obtain ⟨b, more, hBytes, -⟩ := scan_utf8EncodeChar d []
      rw [encode, encode, List.flatMap_nil, List.flatMap_cons, hBytes, List.cons_append]
      exact List.nil_lt_cons _ _
  | cons c text ih =>
    cases other with
    | nil => cases h
    | cons d rest =>
      rw [encode, encode, List.flatMap_cons, List.flatMap_cons]
      rcases List.cons_lt_cons_iff.mp h with hLess | ⟨rfl, hRest⟩
      · exact utf8EncodeChar_lt hLess _ _
      · exact List.append_left_lt (ih hRest)

/-- Texts are ordered as their bytes are. -/
theorem encode_lt_encode_iff {text other : String} :
    encode text.toList < encode other.toList ↔ text < other := by
  refine ⟨fun h => Decidable.byContradiction fun hNot => ?_, encode_lt_of_lt⟩
  by_cases hEq : other = text
  · exact Std.lt_irrefl (hEq ▸ h)
  · have hLess : other < text := Std.lt_of_le_of_ne (Std.not_lt.mp hNot) hEq
    exact Std.lt_irrefl (Std.lt_trans h (encode_lt_of_lt hLess))

end ConfigStore.Utf8
