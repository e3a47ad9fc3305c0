import ConfigStore.Proofs.Outcome
import ConfigStore.Proofs.Path
import ConfigStore.Proofs.Text.Composition
import ConfigStore.Url.Domain.Basic

/-!
# Characters that a domain name keeps

The ASCII form of a domain name may have other letters and digits than the name, and other hyphens
and dots. Every other character in ASCII stays if no mark can join it. So a name with such a
character can only be refused for what its ASCII form looks like.

* `Domain.Punycode.mem_decode?`, `Domain.Punycode.mem_encode`: Punycode keeps such characters, in
  both directions.
* `Domain.mem_ascii?`: so does the ASCII form of a name.
-/

namespace ConfigStore.Url.Domain

/-! ## Punycode -/

namespace Punycode

variable {c : Char}

/-- Every character that is read for a number is a digit. -/
theorem notMem_of_decodeNumber? (hDigit : digit? c = none) {bias place weight sum n : Nat}
    {text rest : List Char} (h : decodeNumber? bias place weight sum text = some (n, rest))
    (hMem : c ∈ text) : c ∈ rest := by
  induction text generalizing place weight sum with
  | nil => cases hMem
  | cons d more ih =>
    rw [decodeNumber?] at h
    split at h
    · cases h
    next value hValue =>
      have hRest : c ∈ more := by
        apply (List.mem_cons.mp hMem).resolve_left
        rintro rfl
        rw [hDigit] at hValue
        cases hValue
      dsimp only at h
      split at h
      · cases h
        exact hRest
      · exact ih h hRest

theorem mem_insertAt {label : List Char} (hMem : c ∈ label) (d : Char) (index : Nat) :
    c ∈ label.take index ++ d :: label.drop index := by
  rw [← List.take_append_drop index label, List.mem_append] at hMem
  rw [List.mem_append, List.mem_cons]
  exact hMem.imp_right .inr

/-- Characters are put into a label, none is taken out of it, and what is read is digits. -/
theorem mem_decodeNumbers? (hDigit : digit? c = none) {label : List Char}
    {number place bias : Nat} {first : Bool} {text decoded : List Char}
    (h : decodeNumbers? label number place bias first text = some decoded) :
    (c ∈ label → c ∈ decoded) ∧ c ∉ text := by
  fun_induction decodeNumbers? label number place bias first text with
  | case1 =>
    cases h
    exact ⟨id, List.not_mem_nil⟩
  | case2 => cases h
  | case3 label number place bias first d more next rest hRead _ _ _ _ ih =>
    obtain ⟨hKept, hRest⟩ := ih h
    exact ⟨fun hMem => hKept (mem_insertAt hMem _ _),
      fun hMem => hRest (notMem_of_decodeNumber? hDigit hRead hMem)⟩
  | case4 => cases h

/-- A character that is no digit stands in front of the last hyphen, and is read as itself. -/
theorem mem_decode? (hDigit : digit? c = none) (hHyphen : c ≠ '-') {text decoded : List Char}
    (h : decode? text = some decoded) (hMem : c ∈ text) : c ∈ decoded := by
  have hSplit := List.takeWhile_append_dropWhile (p := (· ≠ '-')) (l := text.reverse)
  rw [← List.mem_reverse, ← hSplit, List.mem_append] at hMem
  rw [decode?] at h
  dsimp only at h
  split at h
  next hyphen e basic hBasic =>
    have hLast := List.head?_dropWhile_not (fun d => decide (d ≠ '-')) text.reverse
    rw [hBasic] at hLast
    obtain rfl : hyphen = '-' := by simpa using hLast
    obtain ⟨hKept, hDigits⟩ := mem_decodeNumbers? hDigit h
    apply hKept
    rw [List.mem_reverse] at hDigits ⊢
    have hFront := hMem.resolve_left hDigits
    rw [hBasic] at hFront
    exact (List.mem_cons.mp hFront).resolve_left hHyphen
  next hNone =>
    obtain ⟨-, hDigits⟩ := mem_decodeNumbers? hDigit h
    rw [← List.mem_reverse, ← hSplit, List.mem_append] at hDigits
    exact absurd hMem hDigits

theorem mem_encode (hAscii : c.toNat < firstNumber) {label : List Char} (hMem : c ∈ label) :
    c ∈ encode label := by
  have hBasic : c ∈ label.filter (·.toNat < firstNumber) :=
    List.mem_filter.mpr ⟨hMem, decide_eq_true hAscii⟩
  rw [encode, if_neg (List.ne_nil_of_mem hBasic)]
  exact List.mem_append_left _ (List.mem_append_left _ hBasic)

end Punycode

/-! ## Names -/

/-- A character that stands for nothing but itself in a domain name. -/
structure Fixed (c : Char) : Prop where
  takesNoMarks : Text.Composition.takesMarks c = false
  notDigit : Punycode.digit? c = none
  notHyphen : c ≠ '-'
  notDot : c ≠ '.'

instance : DecidablePred Fixed := fun c =>
  decidable_of_iff
    (Text.Composition.takesMarks c = false ∧ Punycode.digit? c = none ∧ c ≠ '-' ∧ c ≠ '.')
    ⟨fun ⟨hMarks, hDigit, hHyphen, hDot⟩ => ⟨hMarks, hDigit, hHyphen, hDot⟩,
      fun h => ⟨h.takesNoMarks, h.notDigit, h.notHyphen, h.notDot⟩⟩

variable {c : Char} (h : Fixed c)
include h

theorem Fixed.lt : c.toNat < 0x80 := Text.Composition.lt_of_takesMarks h.takesNoMarks

theorem Fixed.toLower_eq : c.toLower = c := by
  have hDigit := h.notDigit
  refine dif_neg ?_
  rintro ⟨hFirst, hLast⟩
  have hFirst := UInt32.le_iff_toNat_le.mp hFirst
  have hLast := UInt32.le_iff_toNat_le.mp hLast
  change 65 ≤ c.toNat at hFirst
  change c.toNat ≤ 90 at hLast
  rw [Punycode.digit?, if_neg (by omega), if_pos ⟨hFirst, hLast⟩] at hDigit
  cases hDigit

theorem Fixed.image?_eq : Mapping.image? c = some [c] := by
  rw [Mapping.image?, if_pos h.lt, h.toLower_eq]

theorem Fixed.notMem_mark : c ∉ mark := by
  intro hMem
  have hMark : c = 'x' ∨ c = 'n' ∨ c = '-' ∨ c = '-' := by simpa [mark] using hMem
  rcases hMark with rfl | rfl | rfl | rfl
  · cases h.notDigit
  · cases h.notDigit
  · exact h.notHyphen rfl
  · exact h.notHyphen rfl

theorem mem_read? {label plain : List Char} (hRead : read? label = some plain)
    (hMem : c ∈ label) : c ∈ plain := by
  rw [read?] at hRead
  split at hRead
  next hMarked =>
    obtain ⟨text, rfl⟩ := List.isPrefixOf_iff_prefix.mp hMarked
    have hText := (List.mem_append.mp hMem).resolve_left h.notMem_mark
    rw [unmark?, List.drop_left] at hRead
    obtain ⟨-, -, hRead⟩ := Option.bind_eq_some_iff.mp hRead
    obtain ⟨decoded, hDecoded, hRead⟩ := Option.bind_eq_some_iff.mp hRead
    obtain ⟨-, -, hRead⟩ := Option.bind_eq_some_iff.mp hRead
    obtain ⟨-, -, hPlain⟩ := Option.bind_eq_some_iff.mp hRead
    cases hPlain
    exact Punycode.mem_decode? h.notDigit h.notHyphen hDecoded hText
  · cases hRead
    exact hMem

theorem mem_write {label : List Char} (hMem : c ∈ label) : c ∈ write label := by
  rw [write]
  split
  · exact hMem
  · exact List.mem_append_right _ (Punycode.mem_encode h.lt hMem)

theorem mem_convert? {name domain : List Char} (hConvert : convert? name = some domain)
    (hMem : c ∈ name) : c ∈ domain := by
  rw [convert?] at hConvert
  obtain ⟨mapped, hMapped, hConvert⟩ := Option.bind_eq_some_iff.mp hConvert
  obtain ⟨texts, hTexts, hConvert⟩ := Option.bind_eq_some_iff.mp hConvert
  obtain ⟨-, -, hDomain⟩ := Option.bind_eq_some_iff.mp hConvert
  cases hDomain
  obtain ⟨image, hImage, hEq⟩ := Option.exists_mem_of_mapM hMapped hMem
  rw [h.image?_eq] at hEq
  cases hEq
  have hFlat : c ∈ mapped.flatten :=
    List.mem_flatten.mpr ⟨[c], hImage, List.mem_singleton_self c⟩
  obtain ⟨label, hLabel, hInLabel⟩ := Path.exists_mem_pieces
    (Text.Composition.mem_normalize h.takesNoMarks hFlat) h.notDot
  obtain ⟨text, hText, hRead⟩ := Option.exists_mem_of_mapM hTexts hLabel
  exact Path.mem_intercalate_of_mem _ (List.mem_map_of_mem hText)
    (mem_write h (mem_read? h hRead hInLabel))

/-- Such a character of a name stands in its ASCII form, too. -/
theorem mem_ascii? {name domain : List Char} (hName : ascii? name = some domain)
    (hMem : c ∈ name) : c ∈ domain := by
  rw [ascii?] at hName
  split at hName
  · cases hName
    exact List.mem_map.mpr ⟨c, hMem, h.toLower_eq⟩
  · exact mem_convert? h hName hMem

end ConfigStore.Url.Domain
