import ConfigStore.Proofs.Decimal

/-!
# Which texts are integers

* `Decimal.Writes` says which texts write an integer, by the places of their digits.
* `Decimal.readInt?_eq_some_iff`: these are the texts that are read, where there is room.
* `Decimal.readInt?_writeInt`: an integer that has room is read back.
-/

namespace ConfigStore.Decimal

/-- One or more ASCII digits. -/
def IsDigits (text : List Char) : Prop := text ≠ [] ∧ ∀ c ∈ text, c.isDigit = true

/-- What digits are worth together: each of them ten times as much as the one behind it. -/
def placeValue : List Char → Nat
  | [] => 0
  | c :: rest => (c.toNat - '0'.toNat) * 10 ^ rest.length + placeValue rest

/-- A text writes an integer: it consists of digits, with one sign or none in front. -/
inductive Writes : List Char → Int → Prop
  | unsigned {digits : List Char} (h : IsDigits digits) : Writes digits (placeValue digits)
  | plus {digits : List Char} (h : IsDigits digits) : Writes ('+' :: digits) (placeValue digits)
  | minus {digits : List Char} (h : IsDigits digits) :
    Writes ('-' :: digits) (-(placeValue digits : Int))

/-! ## Digits -/

theorem digit?_eq_some_iff {c : Char} {d : Nat} :
    digit? c = some d ↔ c.isDigit = true ∧ c.toNat - '0'.toNat = d := by
  rw [digit?, Char.isDigit, Bool.and_eq_true, decide_eq_true_iff, decide_eq_true_iff]
  change (if '0' ≤ c ∧ c ≤ '9' then _ else _) = _ ↔ ('0' ≤ c ∧ c ≤ '9') ∧ _
  split
  next hRange => rw [Option.some.injEq, and_iff_right hRange]
  next hRange => simp [hRange]

theorem digitsFrom?_eq_some_iff {value n : Nat} {digits : List Char} :
    digitsFrom? value digits = some n ↔
      (∀ c ∈ digits, c.isDigit = true) ∧
        value * 10 ^ digits.length + placeValue digits = n := by
  induction digits generalizing value with
  | nil => simp [digitsFrom?, placeValue]
  | cons c rest ih =>
    have hPlaces : ∀ d, (10 * value + d) * 10 ^ rest.length + placeValue rest =
        value * 10 ^ (rest.length + 1) + (d * 10 ^ rest.length + placeValue rest) := by
      intro d
      have hTen : 10 * value * 10 ^ rest.length = value * (10 ^ rest.length * 10) := by
        rw [Nat.mul_comm 10 value, Nat.mul_assoc, Nat.mul_comm 10]
      rw [Nat.add_mul, Nat.pow_succ, hTen, Nat.add_assoc]
    rw [digitsFrom?, placeValue, List.length_cons, List.forall_mem_cons]
    cases hDigit : digit? c with
    | none =>
      have hNot : c.isDigit ≠ true := fun hIs => by
        rw [digit?_eq_some_iff.mpr ⟨hIs, rfl⟩] at hDigit
        cases hDigit
      simp [hNot]
    | some d =>
      obtain ⟨hIs, rfl⟩ := digit?_eq_some_iff.mp hDigit
      rw [ih, hPlaces, and_iff_right hIs]

theorem digits?_eq_some_iff {digits : List Char} {n : Nat} :
    digits? digits = some n ↔ IsDigits digits ∧ placeValue digits = n := by
  cases digits with
  | nil => simp [digits?, IsDigits]
  | cons c rest =>
    rw [digits?.eq_2 _ (List.cons_ne_nil c rest), digitsFrom?_eq_some_iff, Nat.zero_mul,
      Nat.zero_add, IsDigits, and_iff_right (List.cons_ne_nil c rest)]

/-! ## Signs -/

theorem writes_minus_iff {digits : List Char} {n : Int} :
    Writes ('-' :: digits) n ↔ IsDigits digits ∧ -(placeValue digits : Int) = n := by
  constructor
  · rintro (h | h | h)
    · exact absurd (h.2 '-' List.mem_cons_self) (by decide)
    · exact ⟨h, rfl⟩
  · rintro ⟨h, rfl⟩
    exact .minus h

theorem writes_plus_iff {digits : List Char} {n : Int} :
    Writes ('+' :: digits) n ↔ IsDigits digits ∧ (placeValue digits : Int) = n := by
  constructor
  · rintro (h | h | h)
    · exact absurd (h.2 '+' List.mem_cons_self) (by decide)
    · exact ⟨h, rfl⟩
  · rintro ⟨h, rfl⟩
    exact .plus h

theorem writes_unsigned_iff {text : List Char} (hMinus : ∀ rest, text ≠ '-' :: rest)
    (hPlus : ∀ rest, text ≠ '+' :: rest) {n : Int} :
    Writes text n ↔ IsDigits text ∧ (placeValue text : Int) = n := by
  constructor
  · intro h
    cases h with
    | unsigned h => exact ⟨h, rfl⟩
    | plus h => exact absurd rfl (hPlus _)
    | minus h => exact absurd rfl (hMinus _)
  · rintro ⟨h, rfl⟩
    exact .unsigned h

/-- Besides digits only a sign stands in what writes an integer. -/
theorem Writes.digit_or_sign {text : List Char} {n : Int} (h : Writes text n) {c : Char}
    (hMem : c ∈ text) : c.isDigit = true ∨ c = '+' ∨ c = '-' := by
  cases h with
  | unsigned h => exact .inl (h.2 c hMem)
  | plus h =>
    rcases List.mem_cons.mp hMem with rfl | hMem
    · exact .inr (.inl rfl)
    · exact .inl (h.2 c hMem)
  | minus h =>
    rcases List.mem_cons.mp hMem with rfl | hMem
    · exact .inr (.inr rfl)
    · exact .inl (h.2 c hMem)

/-- The texts that are read as an integer are those that write one for which there is room. -/
theorem readInt?_eq_some_iff {bits : Nat} {text : String} {n : Int} :
    readInt? bits text = some n ↔ Writes text.toList n ∧ fitsBits bits n = true := by
  have hRoom : ∀ read : Option Int,
      (read.bind fun value => if fitsBits bits value then some value else none) = some n ↔
        read = some n ∧ fitsBits bits n = true := by
    intro read
    cases read with
    | none => simp
    | some value =>
      rw [Option.bind_some, Option.some.injEq]
      split
      next hFits =>
        constructor
        · rintro ⟨⟩
          exact ⟨rfl, hFits⟩
        · rintro ⟨rfl, -⟩
          rfl
      next hFits =>
        constructor
        · rintro ⟨⟩
        · rintro ⟨rfl, hFits'⟩
          exact absurd hFits' hFits
  have hDigits : ∀ (digits : List Char) (sign : Nat → Int),
      (digits? digits).map sign = some n ↔
        IsDigits digits ∧ sign (placeValue digits) = n := by
    intro digits sign
    rw [Option.map_eq_some_iff]
    constructor
    · rintro ⟨value, hValue, rfl⟩
      obtain ⟨hIs, rfl⟩ := digits?_eq_some_iff.mp hValue
      exact ⟨hIs, rfl⟩
    · rintro ⟨hIs, rfl⟩
      exact ⟨_, digits?_eq_some_iff.mpr ⟨hIs, rfl⟩, rfl⟩
  rw [readInt?]
  split
  next rest hText =>
    refine (hRoom _).trans (and_congr_left fun _ => ?_)
    rw [hText, writes_minus_iff, ← hDigits rest fun value => -(value : Int)]
    cases digits? rest <;> rfl
  next rest hText =>
    refine (hRoom _).trans (and_congr_left fun _ => ?_)
    rw [hText, writes_plus_iff]
    exact hDigits rest Int.ofNat
  next hMinus hPlus =>
    refine (hRoom _).trans (and_congr_left fun _ => ?_)
    rw [writes_unsigned_iff hMinus hPlus]
    exact hDigits _ Int.ofNat

theorem isDigits_toDigits (n : Nat) :
    IsDigits (Nat.toDigits 10 n) ∧ placeValue (Nat.toDigits 10 n) = n :=
  digits?_eq_some_iff.mp (digits?_toDigits n)

/-- What is written for an integer writes it. -/
theorem writes_writeInt (n : Int) : Writes (writeInt n).toList n := by
  cases n with
  | ofNat n =>
    obtain ⟨hDigits, hValue⟩ := isDigits_toDigits n
    have hWrites := Writes.unsigned hDigits
    rw [hValue] at hWrites
    rw [writeInt, writeNat, String.toList_ofList]
    exact hWrites
  | negSucc n =>
    obtain ⟨hDigits, hValue⟩ := isDigits_toDigits (n + 1)
    have hWrites := Writes.minus hDigits
    rw [hValue] at hWrites
    have hText : (writeInt (.negSucc n)).toList = '-' :: Nat.toDigits 10 (n + 1) := by
      simp [writeInt, writeNat]
    rw [hText]
    exact hWrites

/-- An integer that has room is read back. -/
theorem readInt?_writeInt {bits : Nat} {n : Int} (h : fitsBits bits n = true) :
    readInt? bits (writeInt n) = some n :=
  readInt?_eq_some_iff.mpr ⟨writes_writeInt n, h⟩

/-- The bounds of integers of 64 bits. -/
theorem fitsBits_64_iff {n : Int} :
    fitsBits 64 n = true ↔ -2 ^ (63 : Nat) ≤ n ∧ n < 2 ^ (63 : Nat) := by
  rw [fitsBits, Bool.and_eq_true, decide_eq_true_iff, decide_eq_true_iff]

/-- The bounds of integers of 32 bits. -/
theorem fitsBits_32_iff {n : Int} :
    fitsBits 32 n = true ↔ -2 ^ (31 : Nat) ≤ n ∧ n < 2 ^ (31 : Nat) := by
  rw [fitsBits, Bool.and_eq_true, decide_eq_true_iff, decide_eq_true_iff]

end ConfigStore.Decimal
