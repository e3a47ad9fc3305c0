import ConfigStore.Decimal.Integer

/-!
# Digits

* `Decimal.digits?_toDigits`: the digits of a number are read back as it.
* `Decimal.readIndex?_writeNat`: a position that has room in 64 bits is read back.
* `Decimal.Canonical`: no sign and no leading zeros. Of the texts that are read as a position, the
  one that is written for it is the only such one (`Decimal.eq_writeNat_of_readIndex?`).
-/

namespace ConfigStore.Decimal

theorem digit?_digitChar {d : Nat} (h : d < 10) : digit? d.digitChar = some d := by
  have all : ∀ d < 10, digit? (Nat.digitChar d) = some d := by decide
  exact all d h

theorem isSome_digit?_of_mem_toDigits {c : Char} {n : Nat} (h : c ∈ Nat.toDigits 10 n) :
    (digit? c).isSome = true := by
  have hDigit := Nat.isDigit_of_mem_toDigits (by decide) (by decide) h
  rw [Char.isDigit, Bool.and_eq_true, decide_eq_true_iff, decide_eq_true_iff] at hDigit
  have hRange : '0' ≤ c ∧ c ≤ '9' := hDigit
  rw [digit?, if_pos hRange]
  rfl

theorem digitsFrom?_append (value : Nat) (first rest : List Char) :
    digitsFrom? value (first ++ rest) =
      (digitsFrom? value first).bind fun value => digitsFrom? value rest := by
  induction first generalizing value with
  | nil => rfl
  | cons c first ih =>
    rw [List.cons_append, digitsFrom?, digitsFrom?]
    cases digit? c with
    | none => rfl
    | some d => exact ih _

theorem digitsFrom?_toDigits (n : Nat) : digitsFrom? 0 (Nat.toDigits 10 n) = some n := by
  induction n using Nat.strongRecOn with
  | ind n ih =>
    rcases Nat.lt_or_ge n 10 with hSmall | hLarge
    · rw [Nat.toDigits_of_lt_base hSmall, digitsFrom?, digit?_digitChar hSmall]
      simp [digitsFrom?]
    · have hLast : n % 10 < 10 := Nat.mod_lt _ (by decide)
      rw [Nat.toDigits_of_base_le (by decide) hLarge, digitsFrom?_append,
        ih _ (Nat.div_lt_self (by omega) (by decide)), Option.bind_some, digitsFrom?,
        digit?_digitChar hLast]
      simp only [digitsFrom?, Option.some.injEq]
      omega

theorem digits?_toDigits (n : Nat) : digits? (Nat.toDigits 10 n) = some n := by
  rw [← digitsFrom?_toDigits n, digits?.eq_2 _ Nat.toDigits_ne_nil]

/-- No zero stands in front of a number. -/
theorem exists_toDigits_eq_cons {n : Nat} (h : n ≠ 0) :
    ∃ c rest d, Nat.toDigits 10 n = c :: rest ∧ digit? c = some (d + 1) ∧
      digitsFrom? (d + 1) rest = some n := by
  have hHead : ∃ c rest d, Nat.toDigits 10 n = c :: rest ∧ digit? c = some (d + 1) := by
    induction n using Nat.strongRecOn with
    | ind n ih =>
      rcases Nat.lt_or_ge n 10 with hSmall | hLarge
      · obtain ⟨d, rfl⟩ := Nat.exists_eq_succ_of_ne_zero h
        exact ⟨_, [], d, Nat.toDigits_of_lt_base hSmall, digit?_digitChar hSmall⟩
      · obtain ⟨c, rest, d, hDigits, hDigit⟩ :=
          ih (n / 10) (Nat.div_lt_self (by omega) (by decide)) (by omega)
        refine ⟨c, rest ++ [(n % 10).digitChar], d, ?_, hDigit⟩
        rw [Nat.toDigits_of_base_le (by decide) hLarge, hDigits, List.cons_append]
  obtain ⟨c, rest, d, hDigits, hDigit⟩ := hHead
  refine ⟨c, rest, d, hDigits, hDigit, ?_⟩
  have hRead := digitsFrom?_toDigits n
  rw [hDigits, digitsFrom?, hDigit] at hRead
  simpa using hRead

/-- More digits never make a number smaller. -/
theorem le_of_digitsFrom? {value n : Nat} {digits : List Char}
    (h : digitsFrom? value digits = some n) : value ≤ n := by
  induction digits generalizing value with
  | nil => exact Nat.le_of_eq (Option.some.inj h)
  | cons c rest ih =>
    rw [digitsFrom?] at h
    cases hDigit : digit? c with
    | none => simp [hDigit] at h
    | some d =>
      simp only [hDigit] at h
      have := ih h
      omega

/-- A position that has room in 64 bits is read back. -/
theorem readIndex?_writeNat {n : Nat} (h : n < 2 ^ (64 : Nat)) :
    readIndex? (writeNat n) = some n := by
  have hSign : ∀ rest, Nat.toDigits 10 n ≠ '+' :: rest := by
    intro rest hEq
    have := isSome_digit?_of_mem_toDigits (hEq ▸ List.mem_cons_self)
    exact absurd this (by decide)
  rw [readIndex?, writeNat, String.toList_ofList]
  split
  next rest hEq => exact absurd hEq (hSign rest)
  next => simp [digits?_toDigits, show n < 18446744073709551616 from h]

theorem lt_of_readIndex? {text : String} {n : Nat} (h : readIndex? text = some n) :
    n < 2 ^ (64 : Nat) := by
  have fits : ∀ read : Option Nat,
      (read.bind fun value => if value < 2 ^ (64 : Nat) then some value else none) = some n →
        n < 2 ^ (64 : Nat) := by
    intro read hRead
    obtain ⟨value, -, hValue⟩ := Option.bind_eq_some_iff.mp hRead
    split at hValue
    next hRoom =>
      cases hValue
      exact hRoom
    · cases hValue
  unfold readIndex? at h
  split at h
  · exact fits _ h
  · exact fits _ h

/-! ## Canonical texts -/

/-- No plus sign in front and no zero in front of other characters. -/
def Canonical (text : String) : Prop :=
  text.toList.head? ≠ some '+' ∧ (text.toList.head? = some '0' → text = "0")

instance (text : String) : Decidable (Canonical text) :=
  inferInstanceAs (Decidable (_ ∧ _))

theorem head?_toDigits_ne_plus (n : Nat) : (Nat.toDigits 10 n).head? ≠ some '+' := by
  intro hHead
  have hPlus := isSome_digit?_of_mem_toDigits (List.mem_of_mem_head? hHead)
  exact absurd hPlus (by decide)

theorem canonical_writeNat (n : Nat) : Canonical (writeNat n) := by
  rw [Canonical, writeNat, String.toList_ofList]
  refine ⟨head?_toDigits_ne_plus n, fun hHead => ?_⟩
  by_cases hZero : n = 0
  · rw [hZero]
    rfl
  · obtain ⟨c, rest, d, hDigits, hDigit, -⟩ := exists_toDigits_eq_cons hZero
    rw [hDigits, List.head?_cons, Option.some.injEq] at hHead
    rw [hHead] at hDigit
    cases hDigit

theorem digitChar_of_digit? {c : Char} {d : Nat} (h : digit? c = some d) : d.digitChar = c := by
  have hLt := digit?_lt h
  unfold digit? at h
  split at h
  next hRange =>
    have hFirst : '0'.toNat ≤ c.toNat := hRange.1
    cases h
    apply Char.toNat_inj.mp
    rw [Nat.toNat_digitChar_of_lt_ten hLt]
    simp only [Char.reduceToNat] at hFirst ⊢
    omega
  · cases h

/-- Digits behind those of a positive number are the digits of the number that they go on to. -/
theorem toDigits_append_of_digitsFrom? {value n : Nat} {digits : List Char} (hValue : 0 < value)
    (h : digitsFrom? value digits = some n) :
    Nat.toDigits 10 value ++ digits = Nat.toDigits 10 n := by
  induction digits generalizing value with
  | nil =>
    cases h
    exact List.append_nil _
  | cons c rest ih =>
    rw [digitsFrom?] at h
    cases hDigit : digit? c with
    | none => simp [hDigit] at h
    | some d =>
      simp only [hDigit] at h
      have hNext := Nat.toDigits_append_toDigits (b := 10) (by decide) hValue (digit?_lt hDigit)
      rw [Nat.toDigits_of_lt_base (digit?_lt hDigit), digitChar_of_digit? hDigit] at hNext
      rw [← ih (by omega) h, ← hNext, List.append_assoc, List.singleton_append]

theorem toDigits_of_digits? {n : Nat} {digits : List Char}
    (hHead : digits.head? = some '0' → digits = ['0']) (h : digits? digits = some n) :
    digits = Nat.toDigits 10 n := by
  cases digits with
  | nil => cases h
  | cons c rest =>
    change digitsFrom? 0 (c :: rest) = some n at h
    rw [digitsFrom?] at h
    cases hDigit : digit? c with
    | none => simp [hDigit] at h
    | some d =>
      have hChar := digitChar_of_digit? hDigit
      simp only [hDigit, Nat.mul_zero, Nat.zero_add] at h
      by_cases hZero : d = 0
      · rw [hZero] at hChar h
        have hEq := hHead (congrArg some hChar.symm)
        rw [(List.cons.inj hEq).2] at h ⊢
        cases h
        rw [← hChar]
        rfl
      · have hDigits := toDigits_append_of_digitsFrom? (Nat.pos_of_ne_zero hZero) h
        rw [Nat.toDigits_of_lt_base (digit?_lt hDigit), hChar] at hDigits
        exact hDigits

/-- A position is written in one way only without a sign and leading zeros. -/
theorem eq_writeNat_of_readIndex? {text : String} {n : Nat} (hCanonical : Canonical text)
    (h : readIndex? text = some n) : text = writeNat n := by
  obtain ⟨hPlus, hZero⟩ := hCanonical
  have hRead : digits? text.toList = some n := by
    rw [readIndex?] at h
    split at h
    next rest hSign => exact absurd (by rw [hSign]; rfl) hPlus
    next =>
      obtain ⟨value, hValue, hRoom⟩ := Option.bind_eq_some_iff.mp h
      dsimp only at hRoom
      split at hRoom
      · cases hRoom
        exact hValue
      · cases hRoom
  have hDigits := toDigits_of_digits? (fun hHead => by rw [hZero hHead]; rfl) hRead
  rw [writeNat, ← hDigits, String.ofList_toList]

end ConfigStore.Decimal
