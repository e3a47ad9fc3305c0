/-!
# UTF-8

Reading bytes as UTF-8, strictly or with replacement characters.

* `Utf8.scan` reads one character, or says how many bytes begin no character.
* `Utf8.decode` gives the text, or the first place at fault.
* `Utf8.decodeLossy` puts one replacement character for each longest stretch that begins a
  character without finishing it, and one for each other byte that begins none.
-/

namespace ConfigStore.Utf8

/-- The bytes of a text. -/
def encode (text : List Char) : List UInt8 := text.flatMap String.utf8EncodeChar

/-- What a first byte promises: how many bytes follow, the range of the first of them, and
the leading bits of the character. -/
structure Lead where
  tails : Nat
  low : UInt8
  high : UInt8
  bits : Nat

/-- Ranges of the second byte exclude overlong forms, surrogates and numbers above
`10FFFF`. -/
def lead? (b : UInt8) : Option Lead :=
  let n := b.toNat
  if n < 0x80 then some ⟨0, 0x80, 0xBF, n⟩
  else if n < 0xC2 then none
  else if n < 0xE0 then some ⟨1, 0x80, 0xBF, n - 0xC0⟩
  else if n = 0xE0 then some ⟨2, 0xA0, 0xBF, 0⟩
  else if n = 0xED then some ⟨2, 0x80, 0x9F, n - 0xE0⟩
  else if n < 0xF0 then some ⟨2, 0x80, 0xBF, n - 0xE0⟩
  else if n = 0xF0 then some ⟨3, 0x90, 0xBF, 0⟩
  else if n < 0xF4 then some ⟨3, 0x80, 0xBF, n - 0xF0⟩
  else if n = 0xF4 then some ⟨3, 0x80, 0x8F, n - 0xF0⟩
  else none

/-- The outcome of reading one character. -/
inductive Scan where
  | char (c : Char) (rest : List UInt8)
  /-- So many bytes begin no character. -/
  | bad (length : Nat) (rest : List UInt8)
  /-- The bytes end within a character. -/
  | cut

/-- Read the bytes that follow the first `taken` bytes of a character. -/
def scanTails : (tails : Nat) → (low high : UInt8) → (bits taken : Nat) → List UInt8 → Scan
  | 0, _, _, bits, _, rest => .char (Char.ofNat bits) rest
  | _ + 1, _, _, _, _, [] => .cut
  | tails + 1, low, high, bits, taken, b :: rest =>
    if low ≤ b ∧ b ≤ high then
      scanTails tails 0x80 0xBF (bits * 64 + b.toNat % 64) (taken + 1) rest
    else .bad taken (b :: rest)

/-- Read one character that begins with `b`. -/
def scan (b : UInt8) (rest : List UInt8) : Scan :=
  match lead? b with
  | none => .bad 1 rest
  | some lead => scanTails lead.tails lead.low lead.high lead.bits 1 rest

/-- What is left to read. -/
def Scan.rest : Scan → List UInt8
  | char _ rest => rest
  | bad _ rest => rest
  | cut => []

theorem length_rest_scanTails (tails : Nat) (low high : UInt8) (bits taken : Nat)
    (bytes : List UInt8) :
    (scanTails tails low high bits taken bytes).rest.length ≤ bytes.length := by
  induction tails generalizing low high bits taken bytes with
  | zero => exact Nat.le_refl _
  | succ tails ih =>
    cases bytes with
    | nil => exact Nat.le_refl _
    | cons b rest =>
      rw [scanTails]
      split
      · exact Nat.le_succ_of_le (ih ..)
      · exact Nat.le_refl _

theorem length_rest_scan (b : UInt8) (rest : List UInt8) :
    (scan b rest).rest.length ≤ rest.length := by
  rw [scan]
  split
  · exact Nat.le_refl _
  · exact length_rest_scanTails ..

/-- Where bytes cease to be UTF-8. -/
inductive Fault where
  /-- So many bytes at a position begin no character. -/
  | invalid (length index : Nat)
  /-- The bytes end within the character at a position. -/
  | incomplete (index : Nat)
deriving DecidableEq, Repr

def Fault.message : Fault → String
  | invalid length index => s!"invalid utf-8 sequence of {length} bytes from index {index}"
  | incomplete index => s!"incomplete utf-8 byte sequence from index {index}"

/-- The characters of bytes that start at position `index`. -/
def decodeFrom (index : Nat) : List UInt8 → Except Fault (List Char)
  | [] => .ok []
  | b :: rest =>
    match _h : scan b rest with
    | .char c more => do
      let chars ← decodeFrom (index + c.utf8Size) more
      return c :: chars
    | .bad length _ => .error (.invalid length index)
    | .cut => .error (.incomplete index)
termination_by bytes => bytes.length
decreasing_by
  have hRest := length_rest_scan b rest
  rw [_h, Scan.rest] at hRest
  rw [List.length_cons]
  omega

def decode (bytes : List UInt8) : Except Fault String :=
  (decodeFrom 0 bytes).map String.ofList

/-- The character that stands for bytes that are no text. -/
def replacement : Char := '\uFFFD'

def decodeLossyChars : List UInt8 → List Char
  | [] => []
  | b :: rest =>
    match _h : scan b rest with
    | .char c more => c :: decodeLossyChars more
    | .bad _ more => replacement :: decodeLossyChars more
    | .cut => [replacement]
termination_by bytes => bytes.length
decreasing_by
  all_goals
    have hRest := length_rest_scan b rest
    rw [_h, Scan.rest] at hRest
    rw [List.length_cons]
    omega

def decodeLossy (bytes : List UInt8) : String := String.ofList (decodeLossyChars bytes)

end ConfigStore.Utf8
