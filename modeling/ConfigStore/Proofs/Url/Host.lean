import ConfigStore.Proofs.Decimal.Integer
import ConfigStore.Proofs.Text.Percent
import ConfigStore.Proofs.Url.Domain
import ConfigStore.Url.Host

/-!
# Characters of hosts

A host is either in brackets, or it has none of the characters that set apart the other pieces of a
URL, however it is written.

* `Ipv6.mem_read?`: an address of eight groups consists of hexadecimal digits, colons and dots.
* `Host.read_cases`: both forms of a host.
* `Host.Parting` are the characters that no host has. `Host.notMem_of_read` excludes those of them
  from a text that is read as a host that are not part of an address in brackets.
-/

namespace ConfigStore

/-! ## Addresses of eight groups -/

theorem parts_eq_pieces (separator : Char) (text : List Char) :
    parts separator text = Path.pieces separator text := by
  induction text with
  | nil => rfl
  | cons c rest ih =>
    rw [parts, ih]
    rfl

namespace Ipv6

/-- Hexadecimal digits and the marks between them. -/
def IsPart (c : Char) : Prop := (Percent.hexValue? c).isSome = true ∨ c = ':' ∨ c = '.'

theorem isPart_of_isDigit {c : Char} (h : c.isDigit = true) : IsPart c := by
  rw [Char.isDigit, Bool.and_eq_true, decide_eq_true_iff, decide_eq_true_iff] at h
  have hRange : '0' ≤ c ∧ c ≤ '9' := h
  rw [IsPart, Percent.hexValue?, if_pos hRange]
  exact .inl rfl

theorem mem_takeHex {c : Char} {count value n : Nat} {text rest : List Char}
    (h : takeHex count value text = (n, rest)) (hMem : c ∈ text) : IsPart c ∨ c ∈ rest := by
  induction count generalizing value text with
  | zero =>
    cases h
    exact .inr hMem
  | succ count ih =>
    cases text with
    | nil => cases hMem
    | cons d more =>
      rw [takeHex] at h
      split at h
      next digit hDigit =>
        rcases List.mem_cons.mp hMem with rfl | hMore
        · exact .inl (.inl (by rw [hDigit]; rfl))
        · exact ih h hMore
      · cases h
        exact .inr hMem

theorem isDigit_of_byte? {digits : List Char} {n : Nat} (h : byte? digits = some n) {c : Char}
    (hMem : c ∈ digits) : c.isDigit = true := by
  simp only [byte?, Option.bind_eq_bind, Option.bind_eq_some_iff] at h
  obtain ⟨value, hValue, -⟩ := h
  exact (Decimal.digits?_eq_some_iff.mp hValue).1.2 c hMem

theorem mem_byteGroups? {text : List Char} {groups : List Nat} (h : byteGroups? text = some groups)
    {c : Char} (hMem : c ∈ text) : IsPart c := by
  simp only [byteGroups?, Option.bind_eq_bind, Option.bind_eq_some_iff] at h
  obtain ⟨bytes, hBytes, -⟩ := h
  by_cases hDot : c = '.'
  · exact .inr (.inr hDot)
  · obtain ⟨part, hPart, hInPart⟩ := Path.exists_mem_pieces hMem hDot
    rw [parts_eq_pieces] at hBytes
    obtain ⟨byte, -, hByte⟩ := Option.exists_mem_of_mapM hBytes hPart
    exact isPart_of_isDigit (isDigit_of_byte? hByte hInPart)

theorem mem_groups? {c : Char} {groups : List Nat} {gap : Option Nat} {text : List Char}
    {found : List Nat × Option Nat} (h : groups? groups gap text = some found) (hMem : c ∈ text) :
    IsPart c := by
  fun_induction groups? groups gap text with
  | case1 => cases hMem
  | case2 => cases h
  | case3 => cases h
  | case4 groups gap rest _ _ ih =>
    rcases List.mem_cons.mp hMem with rfl | hRest
    · exact .inr (.inl rfl)
    · exact ih h hRest
  | case5 groups gap d rest _ _ value hTake =>
    exact (mem_takeHex hTake hMem).resolve_right List.not_mem_nil
  | case6 => cases h
  | case7 =>
    obtain ⟨last, hLast, -⟩ := Option.map_eq_some_iff.mp h
    exact mem_byteGroups? hLast hMem
  | case8 groups gap d rest _ _ value e more hTake _ hColon ih =>
    rcases mem_takeHex hTake hMem with hPart | hBehind
    · exact hPart
    · rcases List.mem_cons.mp hBehind with rfl | hMore
      · exact .inr (.inl hColon.1)
      · exact ih h hMore
  | case9 => cases h

/-- An address of eight groups is written with digits, colons and dots. -/
theorem mem_read? {text : List Char} {groups : List Nat} (h : read? text = some groups) {c : Char}
    (hMem : c ∈ text) : IsPart c := by
  simp only [read?, Option.bind_eq_bind] at h
  split at h
  · obtain ⟨start, hStart, -⟩ := Option.bind_eq_some_iff.mp h
    simp only [List.mem_cons] at hMem
    rcases hMem with rfl | rfl | hMem
    · exact .inr (.inl rfl)
    · exact .inr (.inl rfl)
    · exact mem_groups? hStart hMem
  · cases h
  · cases h
  · cases h
  · obtain ⟨start, hStart, -⟩ := Option.bind_eq_some_iff.mp h
    exact mem_groups? hStart hMem

end Ipv6

namespace Url.Host

/-! ## Hosts -/

/-- The host that a text is read as, in URLs with the rules of network protocols or in others. -/
def read (special : Bool) (text : List Char) : Except Fault Host :=
  if special then readDomain text else readPlain text

/-- A character that ends a host wherever it stands outside of brackets. -/
structure Parting (c : Char) : Prop where
  isForbidden : forbidden c = true
  isFixed : Domain.Fixed c

instance : DecidablePred Parting := fun c =>
  decidable_of_iff (forbidden c = true ∧ Domain.Fixed c)
    ⟨fun ⟨hForbidden, hFixed⟩ => ⟨hForbidden, hFixed⟩, fun h => ⟨h.isForbidden, h.isFixed⟩⟩

theorem Parting.ne_percent {c : Char} (h : Parting c) : c ≠ '%' := by
  rintro rfl
  exact absurd h.isForbidden (by decide)

theorem Parting.hexValue?_eq {c : Char} (h : Parting c) : Percent.hexValue? c = none := by
  -- Below 128 there are few enough characters to check each of them.
  have hAll : ∀ n < 128, Domain.Punycode.digit? (Char.ofNat n) = none →
      Percent.hexValue? (Char.ofNat n) = none := by
    decide +kernel
  have hChar := hAll c.toNat h.isFixed.lt
  rw [Char.ofNat_toNat] at hChar
  exact hChar h.isFixed.notDigit

theorem Parting.not_isPart {c : Char} (h : Parting c) (hColon : c ≠ ':') : ¬ Ipv6.IsPart c := by
  rintro (hHex | hMark | hDot)
  · rw [h.hexValue?_eq] at hHex
    cases hHex
  · exact hColon hMark
  · exact h.isFixed.notDot hDot

theorem readBracketed_cases {text : List Char} {host : Host} (h : readBracketed text = .ok host)
    (hBracket : text.head? = some '[') :
    ∃ inner, text = '[' :: inner ++ [']'] ∧ ∀ c ∈ inner, Ipv6.IsPart c := by
  rw [readBracketed] at h
  split at h
  next hLast =>
    obtain ⟨front, rfl⟩ := List.getLast?_eq_some_iff.mp hLast
    cases front with
    | nil => cases hBracket
    | cons c inner =>
      cases hBracket
      rw [List.cons_append, List.drop_one, List.tail_cons, List.dropLast_concat] at h
      split at h
      next groups hGroups => exact ⟨inner, rfl, fun c => Ipv6.mem_read? hGroups⟩
      · cases h
  · cases h

theorem notMem_of_readDomain {text : List Char} {host : Host} (h : readDomain text = .ok host)
    (hBracket : text.head? ≠ some '[') {c : Char} (hParting : Parting c) : c ∉ text := by
  intro hMem
  rw [readDomain, if_neg hBracket] at h
  split at h
  · cases h
  next decoded hDecoded =>
    have hByte := Percent.mem_decode hParting.isFixed.lt hParting.ne_percent
      hParting.hexValue?_eq hMem
    rw [Utf8.eq_encode_of_decodeFrom hDecoded] at hByte
    have hName := Utf8.mem_of_byte_mem_encode hParting.isFixed.lt hByte
    split at h
    · cases h
    next domain hDomain =>
      rw [asciiDomain?, Option.filter_eq_some_iff] at hDomain
      obtain ⟨hAscii, hAllowed⟩ := hDomain
      have hAny : domain.any forbiddenInDomain = true := by
        apply List.any_eq_true.mpr
        refine ⟨c, Domain.mem_ascii? hParting.isFixed hAscii hName, ?_⟩
        rw [forbiddenInDomain, hParting.isForbidden]
        rfl
      rw [hAny] at hAllowed
      cases hAllowed

theorem notMem_of_readPlain {text : List Char} {host : Host} (h : readPlain text = .ok host)
    (hBracket : text.head? ≠ some '[') {c : Char} (hParting : Parting c) : c ∉ text := by
  intro hMem
  rw [readPlain, if_neg hBracket, if_pos] at h
  · cases h
  · exact List.any_eq_true.mpr ⟨c, hMem, hParting.isForbidden⟩

/-- A host is an address in brackets, or it is without characters that end a host. -/
theorem read_cases {special : Bool} {text : List Char} {host : Host}
    (h : read special text = .ok host) :
    (∃ inner, text = '[' :: inner ++ [']'] ∧ ∀ c ∈ inner, Ipv6.IsPart c) ∨
      (text.head? ≠ some '[' ∧ ∀ c, Parting c → c ∉ text) := by
  by_cases hBracket : text.head? = some '['
  · left
    have hRead : readBracketed text = .ok host := by
      cases special
      · rwa [read, if_neg Bool.false_ne_true, readPlain, if_pos hBracket] at h
      · rwa [read, if_pos rfl, readDomain, if_pos hBracket] at h
    exact readBracketed_cases hRead hBracket
  · refine .inr ⟨hBracket, fun c hParting => ?_⟩
    cases special with
    | false => exact notMem_of_readPlain h hBracket hParting
    | true => exact notMem_of_readDomain h hBracket hParting

/-- In brackets there are no such characters either, besides colons. -/
theorem notMem_of_read {special : Bool} {text : List Char} {host : Host}
    (h : read special text = .ok host) {c : Char} (hParting : Parting c)
    (hMark : c ≠ '[' ∧ c ≠ ']' ∧ c ≠ ':') : c ∉ text := by
  rcases read_cases h with ⟨inner, rfl, hInner⟩ | ⟨-, hNone⟩
  · intro hMem
    rw [List.cons_append, List.mem_cons, List.mem_append, List.mem_singleton] at hMem
    rcases hMem with hOpen | hMem | hClose
    · exact hMark.1 hOpen
    · exact hParting.not_isPart hMark.2.2 (hInner c hMem)
    · exact hMark.2.1 hClose
  · exact hNone c hParting

/-! ## Written hosts -/

end Url.Host

end ConfigStore
