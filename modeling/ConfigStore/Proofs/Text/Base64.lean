import ConfigStore.Text.Base64
import ConfigStore.Proofs.Text.Utf8
import Mathlib.Logic.Basic

/-!
# Bytes written in base64

* `Base64.decodeFrom_encode`: written bytes are read back.
* `Base64.decode_eq_ok_iff`: nothing else is read, so that bytes have one written form only.
* `Base64.write` is the written form as a text.
-/

namespace ConfigStore.Base64

/-! ## Symbols -/

theorem value?_symbol {n : Nat} (h : n < 64) : value? (symbol n) = some n := by
  have all : ∀ n < 64, value? (symbol n) = some n := by decide
  exact all n h

theorem symbol_ne_padding {n : Nat} (h : n < 64) : symbol n ≠ padding := by
  have all : ∀ n < 64, symbol n ≠ padding := by decide
  exact all n h

theorem value?_eq_some_iff {b : UInt8} {n : Nat} :
    value? b = some n ↔ n < 64 ∧ b = symbol n := by
  constructor
  · have all : ∀ m < 256, ∀ n, value? (UInt8.ofNat m) = some n →
        n < 64 ∧ UInt8.ofNat m = symbol n := by
      decide +kernel
    have hByte := all b.toNat b.toNat_lt n
    rwa [UInt8.ofNat_toNat] at hByte
  · rintro ⟨hBits, rfl⟩
    exact value?_symbol hBits

theorem valueAt_eq_ok_iff {b : UInt8} {n offset : Nat} :
    valueAt b offset = .ok n ↔ n < 64 ∧ b = symbol n := by
  rw [← value?_eq_some_iff, valueAt]
  cases value? b with
  | none => exact ⟨nofun, nofun⟩
  | some value => simp

theorem valueAt_symbol {n : Nat} (h : n < 64) (offset : Nat) :
    valueAt (symbol n) offset = .ok n :=
  valueAt_eq_ok_iff.mpr ⟨h, rfl⟩

/-! ## Written groups -/

section

variable {w x y z : Nat}

theorem encode_one (hw : w < 64) (hx : x < 64) (hUnused : x % 16 = 0) :
    encode [UInt8.ofNat (w * 4 + x / 16)] = [symbol w, symbol x, padding, padding] := by
  rw [encode, UInt8.toNat_ofNat']
  congr
  all_goals omega

theorem encode_two (hw : w < 64) (hx : x < 64) (hy : y < 64) (hUnused : y % 4 = 0) :
    encode [UInt8.ofNat (w * 4 + x / 16), UInt8.ofNat (x % 16 * 16 + y / 4)] =
      [symbol w, symbol x, symbol y, padding] := by
  rw [encode, UInt8.toNat_ofNat', UInt8.toNat_ofNat']
  congr
  all_goals omega

theorem encode_three (hw : w < 64) (hx : x < 64) (hy : y < 64) (hz : z < 64)
    (rest : List UInt8) :
    encode (UInt8.ofNat (w * 4 + x / 16) :: UInt8.ofNat (x % 16 * 16 + y / 4) ::
        UInt8.ofNat (y % 4 * 64 + z) :: rest) =
      symbol w :: symbol x :: symbol y :: symbol z :: encode rest := by
  rw [encode, UInt8.toNat_ofNat', UInt8.toNat_ofNat', UInt8.toNat_ofNat']
  congr
  all_goals omega

end

/-! ## The last group -/

theorem lastValues_symbol {n : Nat} (h : n < 64) (offset index : Nat) (rest : List UInt8) :
    lastValues offset index (symbol n :: rest) =
      (lastValues offset (index + 1) rest).map ((symbol n, n) :: ·) := by
  rw [lastValues, if_neg (symbol_ne_padding h), valueAt_symbol h]
  cases lastValues offset (index + 1) rest <;> rfl

theorem lastValues_cons_eq_ok {offset index : Nat} {byte : UInt8} {rest : List UInt8}
    {values : List (UInt8 × Nat)} (h : lastValues offset index (byte :: rest) = .ok values) :
    (byte = padding ∧ 2 ≤ index ∧ (∀ b ∈ rest, b = padding) ∧ values = []) ∨
      ∃ n more, n < 64 ∧ byte = symbol n ∧ lastValues offset (index + 1) rest = .ok more ∧
        values = (byte, n) :: more := by
  rw [lastValues] at h
  split at h
  next hPadding =>
    split at h
    · cases h
    next hEnd =>
      cases h
      rw [not_or, Nat.not_lt, not_not, List.all_eq_true] at hEnd
      refine .inl ⟨hPadding, hEnd.1, fun b hb => of_decide_eq_true (hEnd.2 b hb), rfl⟩
  · obtain ⟨n, hValue, h⟩ := Except.bind_eq_ok_iff.mp h
    obtain ⟨more, hMore, h⟩ := Except.bind_eq_ok_iff.mp h
    cases h
    obtain ⟨hBits, hByte⟩ := valueAt_eq_ok_iff.mp hValue
    exact .inr ⟨n, more, hBits, hByte, hMore, rfl⟩

section

variable {w x y z : Nat} (offset : Nat)

theorem decodeLast_one (hw : w < 64) (hx : x < 64) :
    decodeLast offset [symbol w, symbol x, padding, padding] =
      if x % 16 = 0 then .ok [UInt8.ofNat (w * 4 + x / 16)]
      else .error (.badLastSymbol (symbol x) (offset + 1)) := by
  rw [decodeLast, if_neg (List.cons_ne_nil _ _), lastValues_symbol hw, lastValues_symbol hx,
    lastValues, if_pos rfl, if_neg (by decide), Except.ok_map, Except.ok_map, Except.ok_bind]
  by_cases hUnused : x % 16 = 0
  · simp [hUnused, pure, Except.pure]
  · simp [hUnused, throw, throwThe, MonadExceptOf.throw, Functor.map]

theorem decodeLast_two (hw : w < 64) (hx : x < 64) (hy : y < 64) :
    decodeLast offset [symbol w, symbol x, symbol y, padding] =
      if y % 4 = 0 then .ok [UInt8.ofNat (w * 4 + x / 16), UInt8.ofNat (x % 16 * 16 + y / 4)]
      else .error (.badLastSymbol (symbol y) (offset + 2)) := by
  rw [decodeLast, if_neg (List.cons_ne_nil _ _), lastValues_symbol hw, lastValues_symbol hx,
    lastValues_symbol hy, lastValues, if_pos rfl, if_neg (by decide), Except.ok_map,
    Except.ok_map, Except.ok_map, Except.ok_bind]
  by_cases hUnused : y % 4 = 0
  · simp [hUnused, pure, Except.pure]
  · simp [hUnused, throw, throwThe, MonadExceptOf.throw, Functor.map]

theorem decodeLast_three (hw : w < 64) (hx : x < 64) (hy : y < 64) (hz : z < 64) :
    decodeLast offset [symbol w, symbol x, symbol y, symbol z] =
      .ok [UInt8.ofNat (w * 4 + x / 16), UInt8.ofNat (x % 16 * 16 + y / 4),
        UInt8.ofNat (y % 4 * 64 + z)] := by
  rw [decodeLast, if_neg (List.cons_ne_nil _ _), lastValues_symbol hw, lastValues_symbol hx,
    lastValues_symbol hy, lastValues_symbol hz, lastValues, Except.ok_map, Except.ok_map,
    Except.ok_map, Except.ok_map, Except.ok_bind]
  simp [pure, Except.pure]

end

theorem length_of_decodeLast {offset : Nat} {group bytes : List UInt8}
    (h : decodeLast offset group = .ok bytes) : group.length % 4 = 0 := by
  apply Decidable.byContradiction
  intro hLength
  have hGroup : group ≠ [] := by
    rintro rfl
    exact hLength rfl
  rw [decodeLast, if_neg hGroup] at h
  obtain ⟨values, -, h⟩ := Except.bind_eq_ok_iff.mp h
  simp only [ne_eq, hLength, not_false_eq_true, if_true] at h
  split at h <;> cases h

/-- A group of at most four symbols that is read is the written form of what is read. -/
theorem decodeLast_eq_ok {offset : Nat} {group bytes : List UInt8} (hShort : group.length ≤ 4)
    (h : decodeLast offset group = .ok bytes) : group = encode bytes := by
  have hLength := length_of_decodeLast h
  match group with
  | [] =>
    cases h
    rfl
  | [_] | [_, _] | [_, _, _] => cases hLength
  | [a, b, c, d] =>
    obtain ⟨values, hValues⟩ : ∃ values, lastValues offset 0 [a, b, c, d] = .ok values := by
      rw [decodeLast, if_neg (List.cons_ne_nil _ _)] at h
      obtain ⟨values, hValues, -⟩ := Except.bind_eq_ok_iff.mp h
      exact ⟨values, hValues⟩
    rcases lastValues_cons_eq_ok hValues with ⟨-, hIndex, -⟩ | ⟨w, values, hw, rfl, hValues, -⟩
    · cases hIndex
    rcases lastValues_cons_eq_ok hValues with ⟨-, hIndex, -⟩ | ⟨x, values, hx, rfl, hValues, -⟩
    · exact absurd hIndex (by decide)
    rcases lastValues_cons_eq_ok hValues with ⟨rfl, -, hd, -⟩ | ⟨y, values, hy, rfl, hValues, -⟩
    · rw [hd d List.mem_cons_self, decodeLast_one offset hw hx] at h
      rw [hd d List.mem_cons_self]
      split at h
      next hUnused =>
        cases h
        exact (encode_one hw hx hUnused).symm
      · cases h
    rcases lastValues_cons_eq_ok hValues with ⟨rfl, -, -, -⟩ | ⟨z, values, hz, rfl, -, -⟩
    · rw [decodeLast_two offset hw hx hy] at h
      split at h
      next hUnused =>
        cases h
        exact (encode_two hw hx hy hUnused).symm
      · cases h
    · rw [decodeLast_three offset hw hx hy hz] at h
      cases h
      exact (encode_three hw hx hy hz []).symm
  | _ :: _ :: _ :: _ :: _ :: _ =>
    simp only [List.length_cons] at hShort
    omega

/-! ## All groups -/

theorem decodeFrom_three {w x y z : Nat} (hw : w < 64) (hx : x < 64) (hy : y < 64) (hz : z < 64)
    (offset : Nat) (e : UInt8) (rest : List UInt8) :
    decodeFrom offset (symbol w :: symbol x :: symbol y :: symbol z :: e :: rest) =
      (decodeFrom (offset + 4) (e :: rest)).map fun bytes =>
        UInt8.ofNat (w * 4 + x / 16) :: UInt8.ofNat (x % 16 * 16 + y / 4) ::
          UInt8.ofNat (y % 4 * 64 + z) :: bytes := by
  rw [decodeFrom, valueAt_symbol hw, valueAt_symbol hx, valueAt_symbol hy, valueAt_symbol hz]
  cases decodeFrom (offset + 4) (e :: rest) <;> rfl

/-- What is written in full groups and a last one is read back. -/
theorem decodeFrom_encode (offset : Nat) (bytes : List UInt8) :
    decodeFrom offset (encode bytes) = .ok bytes := by
  fun_induction encode bytes generalizing offset with
  | case1 => rfl
  | case2 a n =>
    have ha : a.toNat < 256 := a.toNat_lt
    rw [decodeFrom, decodeLast_one offset (by omega) (by omega), if_pos (by omega),
      Utf8.byte_eq (b := a) (by omega)]
    all_goals simp
  | case3 a b n =>
    have ha : a.toNat < 256 := a.toNat_lt
    have hb : b.toNat < 256 := b.toNat_lt
    rw [decodeFrom, decodeLast_two offset (by omega) (by omega) (by omega), if_pos (by omega),
      Utf8.byte_eq (b := a) (by omega), Utf8.byte_eq (b := b) (by omega)]
    all_goals simp
  | case4 a b c rest n ih =>
    have ha : a.toNat < 256 := a.toNat_lt
    have hb : b.toNat < 256 := b.toNat_lt
    have hc : c.toNat < 256 := c.toNat_lt
    cases hRest : encode rest with
    | nil =>
      have hNone := ih 0
      rw [hRest] at hNone
      cases hNone
      rw [decodeFrom, decodeLast_three offset (by omega) (by omega) (by omega) (by omega),
        Utf8.byte_eq (b := a) (by omega), Utf8.byte_eq (b := b) (by omega),
        Utf8.byte_eq (b := c) (by omega)]
      all_goals simp
    | cons e more =>
      rw [decodeFrom_three (by omega) (by omega) (by omega) (by omega), ← hRest, ih, Except.ok_map,
        Utf8.byte_eq (b := a) (by omega), Utf8.byte_eq (b := b) (by omega),
        Utf8.byte_eq (b := c) (by omega)]

theorem eq_encode_of_decodeFrom {offset : Nat} {text bytes : List UInt8}
    (h : decodeFrom offset text = .ok bytes) : text = encode bytes := by
  fun_induction decodeFrom offset text generalizing bytes with
  | case1 offset a b c d e rest ih =>
    obtain ⟨w, hFirst, h⟩ := Except.bind_eq_ok_iff.mp h
    obtain ⟨x, hSecond, h⟩ := Except.bind_eq_ok_iff.mp h
    obtain ⟨y, hThird, h⟩ := Except.bind_eq_ok_iff.mp h
    obtain ⟨z, hFourth, h⟩ := Except.bind_eq_ok_iff.mp h
    obtain ⟨more, hMore, h⟩ := Except.bind_eq_ok_iff.mp h
    cases h
    obtain ⟨hw, rfl⟩ := valueAt_eq_ok_iff.mp hFirst
    obtain ⟨hx, rfl⟩ := valueAt_eq_ok_iff.mp hSecond
    obtain ⟨hy, rfl⟩ := valueAt_eq_ok_iff.mp hThird
    obtain ⟨hz, rfl⟩ := valueAt_eq_ok_iff.mp hFourth
    rw [encode_three hw hx hy hz, ← ih hMore]
  | case2 offset group hGroup =>
    refine decodeLast_eq_ok ?_ h
    match group with
    | [] | [_] | [_, _] | [_, _, _] | [_, _, _, _] => simp
    | a :: b :: c :: d :: e :: rest => exact absurd rfl (hGroup a b c d e rest)

theorem length_encode (bytes : List UInt8) : (encode bytes).length % 4 = 0 := by
  fun_induction encode bytes with
  | case1 => rfl
  | case2 | case3 => simp only [List.length_cons, List.length_nil]
  | case4 a b c rest n ih =>
    simp only [List.length_cons]
    omega

/-- The texts that can be read are the written forms. -/
theorem decode_eq_ok_iff {text bytes : List UInt8} :
    decode text = .ok bytes ↔ text = encode bytes := by
  constructor
  · intro h
    rw [decode] at h
    split at h
    · split at h
      · cases h
      · exact eq_encode_of_decodeFrom h
    next hEmpty =>
      cases h
      exact List.getLast?_eq_none_iff.mp hEmpty
  · rintro rfl
    rw [decode]
    split
    · rw [if_neg, decodeFrom_encode]
      rw [length_encode]
      exact fun hLone => absurd hLone.1 (by decide)
    next hEmpty =>
      have hNil := decodeFrom_encode 0 bytes
      rw [List.getLast?_eq_none_iff.mp hEmpty] at hNil
      exact hNil

theorem encode_injective {bytes others : List UInt8} (h : encode bytes = encode others) :
    bytes = others :=
  Except.ok.inj ((decodeFrom_encode 0 bytes).symm.trans (h ▸ decodeFrom_encode 0 others))

/-! ## Written forms as texts -/

theorem symbol_lt (n : Nat) : (symbol n).toNat < 0x80 := by
  by_cases hBits : n < 64
  · have all : ∀ n < 64, (symbol n).toNat < 0x80 := by decide
    exact all n hBits
  · rw [symbol, if_neg (by omega), if_neg (by omega), if_neg (by omega), if_neg (by omega)]
    decide

theorem lt_of_mem_encode {bytes : List UInt8} {b : UInt8} (h : b ∈ encode bytes) :
    b.toNat < 0x80 := by
  have hPadding : padding.toNat < 0x80 := by decide
  fun_induction encode bytes with
  | case1 => cases h
  | case2 | case3 =>
    simp only [List.mem_cons, List.not_mem_nil, or_false] at h
    rcases h with rfl | rfl | rfl | rfl <;> first | exact symbol_lt _ | exact hPadding
  | case4 a b c rest n ih =>
    simp only [List.mem_cons] at h
    rcases h with rfl | rfl | rfl | rfl | h
    · exact symbol_lt _
    · exact symbol_lt _
    · exact symbol_lt _
    · exact symbol_lt _
    · exact ih h

/-- The written form of bytes as a text. -/
def write (bytes : List UInt8) : String :=
  String.ofList ((encode bytes).map fun b => Char.ofNat b.toNat)

theorem encode_write (bytes : List UInt8) : Utf8.encode (write bytes).toList = encode bytes := by
  rw [write, String.toList_ofList, Utf8.encode_of_ascii fun b hb => lt_of_mem_encode hb]

end ConfigStore.Base64
