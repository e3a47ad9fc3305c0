import ConfigStore.Json.Value

/-!
# Strings and numbers of a document

Reading the parts of a document that have no parts of their own. Each reader takes the
characters that are left and returns what is left behind its part; lemmas say that this is
shorter, and which numbers are read.

* `Fault` is a reason with the number of bytes that were left when it was met.
* `readString` reads up to the closing quotation mark, `readNumber` reads a number.

A number is read with a significand of 64 bits. Digits that find no room in it are counted
before the decimal point and ignored behind it, and the significand is rounded to a double
before it is scaled by a power of ten.
-/

namespace ConfigStore.Json

open scoped Decimal

/-- Why a text is no document. -/
inductive Reason where
  | endInValue
  | endInString
  | endInArray
  | endInObject
  | expectedValue
  | expectedWord
  | expectedColon
  | expectedCommaOrBracket
  | expectedCommaOrBrace
  | keyNotString
  | trailingComma
  | trailingCharacters
  | invalidNumber
  | numberOutOfRange
  | invalidEscape
  | unpairedEscape
  | loneSurrogate
  | controlCharacter
  | tooDeep
deriving DecidableEq, Repr

def Reason.message : Reason → String
  | endInValue => "EOF while parsing a value"
  | endInString => "EOF while parsing a string"
  | endInArray => "EOF while parsing a list"
  | endInObject => "EOF while parsing an object"
  | expectedValue => "expected value"
  | expectedWord => "expected ident"
  | expectedColon => "expected `:`"
  | expectedCommaOrBracket => "expected `,` or `]`"
  | expectedCommaOrBrace => "expected `,` or `\x7d`"
  | keyNotString => "key must be a string"
  | trailingComma => "trailing comma"
  | trailingCharacters => "trailing characters"
  | invalidNumber => "invalid number"
  | numberOutOfRange => "number out of range"
  | invalidEscape => "invalid escape"
  | unpairedEscape => "unexpected end of hex escape"
  | loneSurrogate => "lone leading surrogate in hex escape"
  | controlCharacter => "control character (\\u0000-\\u001F) found while parsing a string"
  | tooDeep => "recursion limit exceeded"

/-- The number of bytes of a text. -/
def byteCount (text : List Char) : Nat :=
  text.foldl (fun count c => count + c.utf8Size) 0

/-- A reason, and how many bytes of the document stand behind the place at fault. -/
structure Fault where
  reason : Reason
  left : Nat
deriving DecidableEq, Repr

/-- A fault met before the given rest. -/
def faultBefore (reason : Reason) (rest : List Char) : Fault := ⟨reason, byteCount rest⟩

/-- A fault at the first byte of the given rest, if there is one. -/
def faultAt (reason : Reason) (rest : List Char) : Fault := ⟨reason, byteCount rest - 1⟩

/-! ## Blanks and words -/

def isBlank (c : Char) : Bool := c = ' ' || c = '\n' || c = '\t' || c = '\r'

def skipBlanks (text : List Char) : List Char := text.dropWhile isBlank

theorem length_skipBlanks (text : List Char) : (skipBlanks text).length ≤ text.length :=
  (List.dropWhile_sublist _).length_le

/-- Read the rest of a word whose first letter is known. -/
def readWord : (word : List Char) → List Char → Except Fault (List Char)
  | [], rest => .ok rest
  | _ :: _, [] => .error ⟨.endInValue, 0⟩
  | w :: word, c :: rest =>
    if w = c then readWord word rest else .error (faultAt .expectedWord (c :: rest))

theorem length_readWord {word text rest : List Char} (h : readWord word text = .ok rest) :
    rest.length ≤ text.length := by
  induction word generalizing text with
  | nil => cases h; exact Nat.le_refl _
  | cons w word ih =>
    cases text with
    | nil => cases h
    | cons c more =>
      rw [readWord] at h
      split at h
      · exact Nat.le_succ_of_le (ih h)
      · cases h

/-! ## Strings -/

def hexValue? (c : Char) : Option Nat :=
  if '0' ≤ c ∧ c ≤ '9' then some (c.toNat - '0'.toNat)
  else if 'a' ≤ c ∧ c ≤ 'f' then some (c.toNat - 'a'.toNat + 10)
  else if 'A' ≤ c ∧ c ≤ 'F' then some (c.toNat - 'A'.toNat + 10)
  else none

/-- The number of four hexadecimal digits. -/
def hexNumber? (a b c d : Char) : Option Nat := do
  let a ← hexValue? a
  let b ← hexValue? b
  let c ← hexValue? c
  let d ← hexValue? d
  return ((a * 16 + b) * 16 + c) * 16 + d

/-- Why four bytes are no hexadecimal digits. -/
def hexFault (text : List Char) : Fault :=
  if byteCount text < 4 then ⟨.endInString, 0⟩ else ⟨.invalidEscape, byteCount text - 4⟩

/-- Read four hexadecimal digits. -/
def readHex (text : List Char) : Except Fault (Nat × List Char) :=
  match text with
  | a :: b :: c :: d :: rest =>
    match hexNumber? a b c d with
    | some n => .ok (n, rest)
    | none => .error (hexFault text)
  | _ => .error (hexFault text)

/-- Read the mark of a second hexadecimal escape. -/
def readPairMark : List Char → Except Fault (List Char)
  | '\\' :: 'u' :: rest => .ok rest
  | [] => .error ⟨.endInString, 0⟩
  | ['\\'] => .error ⟨.endInString, 0⟩
  | '\\' :: rest => .error (faultAt .unpairedEscape rest)
  | rest => .error (faultAt .unpairedEscape rest)

/-- Read a hexadecimal escape behind its mark. A number of the upper half of a surrogate pair
has to be followed by an escape with one of the lower half. -/
def readUnicode (text : List Char) : Except Fault (Char × List Char) := do
  let (high, rest) ← readHex text
  if 0xDC00 ≤ high ∧ high ≤ 0xDFFF then throw (faultBefore .loneSurrogate rest)
  if high < 0xD800 ∨ 0xDFFF < high then return (Char.ofNat high, rest)
  let rest ← readPairMark rest
  let (low, rest) ← readHex rest
  if low < 0xDC00 ∨ 0xDFFF < low then throw (faultBefore .loneSurrogate rest)
  return (Char.ofNat ((high - 0xD800) * 0x400 + (low - 0xDC00) + 0x10000), rest)

/-- The character that a letter behind a backslash stands for. -/
def escaped? (c : Char) : Option Char :=
  if c = '"' ∨ c = '\\' ∨ c = '/' then some c
  else if c = 'b' then some '\x08'
  else if c = 'f' then some '\x0c'
  else if c = 'n' then some '\n'
  else if c = 'r' then some '\r'
  else if c = 't' then some '\t'
  else none

/-- Read an escape behind its backslash. -/
def readEscape : List Char → Except Fault (Char × List Char)
  | [] => .error ⟨.endInString, 0⟩
  | c :: rest =>
    if c = 'u' then readUnicode rest
    else
      match escaped? c with
      | some c => .ok (c, rest)
      | none => .error (faultAt .invalidEscape (c :: rest))

theorem length_readHex {text rest : List Char} {n : Nat} (h : readHex text = .ok (n, rest)) :
    rest.length < text.length := by
  unfold readHex at h
  split at h
  · split at h
    · cases h
      simp only [List.length_cons]
      omega
    · cases h
  · cases h

theorem length_readPairMark {text rest : List Char} (h : readPairMark text = .ok rest) :
    rest.length < text.length := by
  unfold readPairMark at h
  split at h
  · cases h
    simp only [List.length_cons]
    omega
  all_goals cases h

theorem length_readUnicode {text rest : List Char} {c : Char}
    (h : readUnicode text = .ok (c, rest)) : rest.length < text.length := by
  unfold readUnicode at h
  cases hHigh : readHex text with
  | error fault => simp [hHigh, bind, Except.bind] at h
  | ok high =>
    have hFirst := length_readHex hHigh
    simp only [hHigh, bind, Except.bind] at h
    split at h
    · cases h
    · split at h
      · simp only [pure, Except.pure, Except.ok.injEq, Prod.mk.injEq] at h
        obtain ⟨-, rfl⟩ := h
        exact hFirst
      · split at h
        · cases h
        next mark hMark =>
          have hSecond := length_readPairMark hMark
          split at h
          · cases h
          next low hLow =>
            have hThird := length_readHex hLow
            split at h
            · cases h
            · simp only [pure, Except.pure, Except.ok.injEq, Prod.mk.injEq] at h
              obtain ⟨-, rfl⟩ := h
              omega

theorem length_readEscape {text rest : List Char} {c : Char}
    (h : readEscape text = .ok (c, rest)) : rest.length < text.length := by
  cases text with
  | nil => cases h
  | cons d more =>
    rw [readEscape] at h
    split at h
    · exact Nat.lt_succ_of_lt (length_readUnicode h)
    · split at h
      · cases h
        exact Nat.lt_succ_self _
      · cases h

/-- Read the characters of a string up to its closing quotation mark. -/
def readString : List Char → Except Fault (List Char × List Char)
  | [] => .error ⟨.endInString, 0⟩
  | c :: rest =>
    if c = '"' then .ok ([], rest)
    else if c = '\\' then
      match _h : readEscape rest with
      | .error fault => .error fault
      | .ok (c, more) =>
        match readString more with
        | .error fault => .error fault
        | .ok (chars, end_) => .ok (c :: chars, end_)
    else if c.toNat < 0x20 then .error (faultBefore .controlCharacter rest)
    else
      match readString rest with
      | .error fault => .error fault
      | .ok (chars, end_) => .ok (c :: chars, end_)
termination_by text => text.length
decreasing_by
  · have := length_readEscape _h
    simp only [List.length_cons]
    omega
  · simp

theorem length_readString {text chars rest : List Char}
    (h : readString text = .ok (chars, rest)) : rest.length < text.length := by
  fun_induction readString text generalizing chars rest with
  | case1 => cases h
  | case2 => cases h; simp
  | case3 => cases h
  | case4 => cases h
  | case5 =>
    rename_i hEscape _ _ hInner _ ih
    cases h
    have := length_readEscape hEscape
    have := ih hInner
    simp only [List.length_cons]
    omega
  | case6 => cases h
  | case7 => cases h
  | case8 =>
    rename_i hInner ih
    cases h
    have := ih hInner
    simp only [List.length_cons]
    omega

/-! ## Numbers -/

/-- Read digits as long as the significand stays below `2 ^ 64`; also count them. -/
def readSignificand (significand : Nat) : List Char → Nat × Nat × List Char
  | [] => (significand, 0, [])
  | c :: rest =>
    match Decimal.digit? c with
    | some d =>
      if significand * 10 + d < 2 ^ (64 : Nat) then
        let (value, count, rest) := readSignificand (significand * 10 + d) rest
        (value, count + 1, rest)
      else (significand, 0, c :: rest)
    | none => (significand, 0, c :: rest)

def startsWithDigit : List Char → Bool
  | [] => false
  | c :: _ => (Decimal.digit? c).isSome

/-- A power of ten as a double. -/
def powerOfTen (exponent : Nat) : Double := Double.ofNat (10 ^ exponent)

/-- Scale by a power of ten, in steps that stay within the range of doubles. Nothing stands
for a number that is too large. -/
def scale? (value : Double) (exponent : Int) : Option Double :=
  if exponent.natAbs ≤ 308 then
    if 0 ≤ exponent then
      let scaled := value.mul (powerOfTen exponent.natAbs)
      if scaled.isInfinite then none else some scaled
    else some (value.div (powerOfTen exponent.natAbs))
  else if value.isZero then some value
  else if h : 0 ≤ exponent then none
  else scale? (value.div (powerOfTen 308)) (exponent + 308)
termination_by exponent.natAbs

/-- The number `± significand * 10 ^ exponent`, met before `rest`. -/
def scaled (negative : Bool) (significand : Nat) (exponent : Int) (rest : List Char) :
    Except Fault (Number × List Char) :=
  match scale? (Double.ofNat significand) exponent with
  | some value => .ok (.double (if negative then value.neg else value), rest)
  | none => .error (faultBefore .numberOutOfRange rest)

/-- Read the digits of an exponent behind its first digit. Past 31 bits the number is zero or
out of range, and the digits that follow are skipped. -/
def readExponentDigits (negative : Bool) (significand : Nat) (start : Int) (minus : Bool)
    (value : Nat) : List Char → Except Fault (Number × List Char)
  | [] => scaled negative significand (if minus then start - value else start + value) []
  | c :: rest =>
    match Decimal.digit? c with
    | some d =>
      if value * 10 + d < 2 ^ (31 : Nat) then
        readExponentDigits negative significand start minus (value * 10 + d) rest
      else if significand ≠ 0 ∧ ¬ minus then .error (faultBefore .numberOutOfRange rest)
      else .ok (.double (Double.zero negative), rest.dropWhile fun c => (Decimal.digit? c).isSome)
    | none =>
      scaled negative significand (if minus then start - value else start + value) (c :: rest)

/-- Read an exponent behind its mark. -/
def readExponent (negative : Bool) (significand : Nat) (start : Int) (text : List Char) :
    Except Fault (Number × List Char) :=
  let (minus, rest) :=
    match text with
    | '+' :: rest => (false, rest)
    | '-' :: rest => (true, rest)
    | rest => (false, rest)
  match rest with
  | [] => .error ⟨.endInValue, 0⟩
  | c :: more =>
    match Decimal.digit? c with
    | some d => readExponentDigits negative significand start minus d more
    | none => .error (faultAt .invalidNumber (c :: more))

/-- Finish a number with an exponent, if there is one. -/
def readScaled (negative : Bool) (significand : Nat) (exponent : Int) (text : List Char) :
    Except Fault (Number × List Char) :=
  match text with
  | c :: rest =>
    if c = 'e' ∨ c = 'E' then readExponent negative significand exponent rest
    else scaled negative significand exponent (c :: rest)
  | [] => scaled negative significand exponent []

/-- Read the digits behind the decimal point. -/
def readFraction (negative : Bool) (significand : Nat) (exponent : Int) (text : List Char) :
    Except Fault (Number × List Char) :=
  let (significand, count, rest) := readSignificand significand text
  if startsWithDigit rest then
    readScaled negative significand (exponent - count)
      (rest.dropWhile fun c => (Decimal.digit? c).isSome)
  else if count = 0 then
    match rest with
    | [] => .error ⟨.endInValue, 0⟩
    | _ => .error (faultAt .invalidNumber rest)
  else readScaled negative significand (exponent - count) rest

/-- An integer without fraction and exponent. The integers of 64 bits stay integers. -/
def wholeNumber (negative : Bool) (significand : Nat) : Number :=
  if ¬ negative then .integer significand
  else if significand = 0 ∨ 2 ^ (63 : Nat) < significand then .double (Double.ofNat significand).neg
  else .integer (-significand)

/-- Read the rest of a number behind the digits of its integer part. -/
def readTail (negative : Bool) (significand : Nat) (text : List Char) :
    Except Fault (Number × List Char) :=
  if startsWithDigit text then
    let rest := text.dropWhile fun c => (Decimal.digit? c).isSome
    let skipped := text.length - rest.length
    match rest with
    | '.' :: more => readFraction negative significand skipped more
    | rest => readScaled negative significand skipped rest
  else
    match text with
    | '.' :: more => readFraction negative significand 0 more
    | c :: more =>
      if c = 'e' ∨ c = 'E' then readExponent negative significand 0 more
      else .ok (wholeNumber negative significand, c :: more)
    | [] => .ok (wholeNumber negative significand, [])

/-- Read a number behind its sign. -/
def readNumber (negative : Bool) : List Char → Except Fault (Number × List Char)
  | [] => .error ⟨.endInValue, 0⟩
  | c :: rest =>
    match Decimal.digit? c with
    | none => .error (faultAt .invalidNumber (c :: rest))
    | some 0 =>
      if startsWithDigit rest then .error (faultAt .invalidNumber rest)
      else readTail negative 0 rest
    | some d =>
      let (significand, _, rest) := readSignificand d rest
      readTail negative significand rest

/-! What is left behind a number is an end of the text. A number with a fraction or an exponent
is a double, and so is one that has no room in 64 bits. -/

/-- Integers have room in 64 bits, of which a sign takes one. -/
def Number.InRange : Number → Prop
  | integer value => -(2 : Int) ^ (63 : Nat) ≤ value ∧ value < (2 : Int) ^ (64 : Nat)
  | double _ => True

theorem suffix_readSignificand (significand : Nat) (text : List Char) :
    (readSignificand significand text).2.2 <:+ text := by
  induction text generalizing significand with
  | nil => exact List.suffix_rfl
  | cons c rest ih =>
    rw [readSignificand]
    split
    · split
      · exact (ih _).trans (List.suffix_cons _ _)
      · exact List.suffix_rfl
    · exact List.suffix_rfl

theorem lt_readSignificand {significand : Nat} (h : significand < 2 ^ (64 : Nat))
    (text : List Char) : (readSignificand significand text).1 < 2 ^ (64 : Nat) := by
  induction text generalizing significand with
  | nil => exact h
  | cons c rest ih =>
    rw [readSignificand]
    split
    · split
      next hRoom => exact ih hRoom
      · exact h
    · exact h

theorem suffix_dropDigits (text : List Char) :
    (text.dropWhile fun c => (Decimal.digit? c).isSome) <:+ text :=
  List.dropWhile_suffix _

variable {negative minus : Bool} {significand value : Nat} {start exponent : Int}
  {text rest : List Char} {n : Number}

theorem scaled_ok (h : scaled negative significand exponent text = .ok (n, rest)) :
    (∃ value, n = .double value) ∧ rest <:+ text := by
  unfold scaled at h
  split at h <;> cases h
  exact ⟨⟨_, rfl⟩, List.suffix_rfl⟩

theorem readExponentDigits_ok
    (h : readExponentDigits negative significand start minus value text = .ok (n, rest)) :
    (∃ value, n = .double value) ∧ rest <:+ text := by
  induction text generalizing value with
  | nil => exact scaled_ok h
  | cons c more ih =>
    rw [readExponentDigits] at h
    split at h
    · split at h
      · exact (ih h).imp_right (·.trans (List.suffix_cons _ _))
      · split at h
        · cases h
        · cases h
          exact ⟨⟨_, rfl⟩, (suffix_dropDigits more).trans (List.suffix_cons _ _)⟩
    · exact scaled_ok h

theorem readExponent_ok (h : readExponent negative significand start text = .ok (n, rest)) :
    (∃ value, n = .double value) ∧ rest <:+ text := by
  unfold readExponent at h
  have behindSign : ∀ (minus : Bool) (more : List Char),
      (match more with
        | [] => .error ⟨.endInValue, 0⟩
        | c :: more =>
          match Decimal.digit? c with
          | some d => readExponentDigits negative significand start minus d more
          | none => .error (faultAt .invalidNumber (c :: more))) = Except.ok (n, rest) →
        (∃ value, n = .double value) ∧ rest <:+ more := by
    intro minus more hMore
    split at hMore
    · cases hMore
    · split at hMore
      · exact (readExponentDigits_ok hMore).imp_right (·.trans (List.suffix_cons _ _))
      · cases hMore
  split at h
  next hSign =>
    split at hSign <;> cases hSign
    · exact (behindSign _ _ h).imp_right (·.trans (List.suffix_cons _ _))
    · exact (behindSign _ _ h).imp_right (·.trans (List.suffix_cons _ _))
    · exact behindSign _ _ h

theorem readScaled_ok (h : readScaled negative significand exponent text = .ok (n, rest)) :
    (∃ value, n = .double value) ∧ rest <:+ text := by
  unfold readScaled at h
  split at h
  · split at h
    · exact (readExponent_ok h).imp_right (·.trans (List.suffix_cons _ _))
    · exact scaled_ok h
  · exact scaled_ok h

theorem readFraction_ok (h : readFraction negative significand exponent text = .ok (n, rest)) :
    (∃ value, n = .double value) ∧ rest <:+ text := by
  unfold readFraction at h
  have hDigits := suffix_readSignificand significand text
  generalize readSignificand significand text = read at h hDigits
  obtain ⟨value, count, more⟩ := read
  dsimp only at h hDigits
  split at h
  · exact (readScaled_ok h).imp_right fun hRest =>
      (hRest.trans (suffix_dropDigits more)).trans hDigits
  · split at h
    · split at h <;> cases h
    · exact (readScaled_ok h).imp_right (·.trans hDigits)

theorem inRange_wholeNumber (h : significand < 2 ^ (64 : Nat)) :
    (wholeNumber negative significand).InRange := by
  unfold wholeNumber
  split
  · simp only [Number.InRange]
    omega
  · split
    · trivial
    · simp only [Number.InRange]
      omega

theorem readTail_ok (hRoom : significand < 2 ^ (64 : Nat))
    (h : readTail negative significand text = .ok (n, rest)) : n.InRange ∧ rest <:+ text := by
  have ofDouble : (∃ value, n = .double value) → n.InRange := by
    rintro ⟨value, rfl⟩
    trivial
  unfold readTail at h
  split at h
  · have hDigits := suffix_dropDigits text
    generalize (text.dropWhile fun c => (Decimal.digit? c).isSome) = more at h hDigits
    dsimp only at h
    split at h
    · exact (readFraction_ok h).imp ofDouble fun hRest =>
        (hRest.trans (List.suffix_cons _ _)).trans hDigits
    · exact (readScaled_ok h).imp ofDouble (·.trans hDigits)
  · split at h
    · exact (readFraction_ok h).imp ofDouble (·.trans (List.suffix_cons _ _))
    · split at h
      · exact (readExponent_ok h).imp ofDouble (·.trans (List.suffix_cons _ _))
      · cases h
        exact ⟨inRange_wholeNumber hRoom, List.suffix_rfl⟩
    · cases h
      exact ⟨inRange_wholeNumber hRoom, List.suffix_rfl⟩

theorem readNumber_ok (h : readNumber negative text = .ok (n, rest)) :
    n.InRange ∧ ∃ c tail, text = c :: tail ∧ rest <:+ tail := by
  unfold readNumber at h
  split at h
  · cases h
  next c tail =>
    split at h
    · cases h
    · split at h
      · cases h
      · exact (readTail_ok (by decide) h).imp_right fun hRest => ⟨c, tail, rfl, hRest⟩
    next d _ hDigit =>
      have hRoom := lt_readSignificand (Nat.lt_trans (Decimal.digit?_lt hDigit) (by decide)) tail
      exact (readTail_ok hRoom h).imp_right fun hRest =>
        ⟨c, tail, rfl, hRest.trans (suffix_readSignificand _ _)⟩

theorem length_readNumber (h : readNumber negative text = .ok (n, rest)) :
    rest.length < text.length := by
  obtain ⟨-, c, tail, rfl, hRest⟩ := readNumber_ok h
  exact Nat.lt_succ_of_le hRest.length_le

end ConfigStore.Json
