import ConfigStore.Json.Scanner
import ConfigStore.Text.Utf8

/-!
# Documents that are read in parts

Not everybody who reads a document asks for all of its values. What nobody asks for has to be
written as a value is, but no more: its texts need not be UTF-8 nor its escapes stand for
characters, its numbers may have any size, and any number of arrays and objects may be open in it.

* `Json.tokens?` takes bytes apart into marks, texts and other values without parts.
* `Json.Raw.read?` reads a document of such tokens. It keeps all members, also those of one name.
* `Json.Raw.text?` reads a text that is asked for.
-/

namespace ConfigStore.Json

/-- Bytes as the characters of the same numbers. -/
def octets (bytes : List UInt8) : List Char := bytes.map fun b => Char.ofNat b.toNat

def bytesOf (octets : List Char) : List UInt8 := octets.map fun c => UInt8.ofNat c.toNat

/-! ## Strings and numbers that are skipped -/

/-- Put characters in front of the first part of a text. -/
def putBefore (front : List Char) (parts : List Char × List Char) : List Char × List Char :=
  (front ++ parts.1, parts.2)

/-- Split a text at the quotation mark that closes a string, with the escapes of the string as they
are written. -/
def splitString? : List Char → Option (List Char × List Char)
  | [] => none
  | '"' :: rest => some ([], rest)
  | '\\' :: 'u' :: a :: b :: c :: d :: rest =>
    if (hexNumber? a b c d).isSome then
      (splitString? rest).map (putBefore ['\\', 'u', a, b, c, d])
    else none
  | '\\' :: c :: rest =>
    if (escaped? c).isSome then (splitString? rest).map (putBefore ['\\', c]) else none
  | c :: rest => if c.toNat < 0x20 then none else (splitString? rest).map (putBefore [c])

/-- Skip digits, of which there is one at least. -/
def skipDigits? (text : List Char) : Option (List Char) :=
  if startsWithDigit text then some (text.dropWhile fun c => (Decimal.digit? c).isSome) else none

def skipSign : List Char → List Char
  | '+' :: digits | '-' :: digits => digits
  | digits => digits

def skipExponent? : List Char → Option (List Char)
  | 'e' :: rest | 'E' :: rest => skipDigits? (skipSign rest)
  | text => some text

def skipFraction? : List Char → Option (List Char)
  | '.' :: digits => (skipDigits? digits).bind skipExponent?
  | text => skipExponent? text

/-- Skip a number behind its sign. Zero is the only digit in front of which no others stand. -/
def skipNumber? : List Char → Option (List Char)
  | '0' :: rest => if startsWithDigit rest then none else skipFraction? rest
  | text => (skipDigits? text).bind skipFraction?

/-! ## Tokens -/

inductive Token where
  | openArray
  | closeArray
  | openObject
  | closeObject
  | comma
  | colon
  /-- A string, as it is written between its quotation marks. -/
  | text (written : List Char)
  | null
  /-- A number or a truth value. -/
  | other
deriving DecidableEq, Repr

/-- The marks between and around values. -/
def mark? : Char → Option Token
  | '[' => some .openArray
  | ']' => some .closeArray
  | '\x7b' => some .openObject
  | '\x7d' => some .closeObject
  | ',' => some .comma
  | ':' => some .colon
  | _ => none

/-- Read the rest of a word that stands for a token. -/
def readWordAs? (token : Token) (word text : List Char) : Option (Token × List Char) :=
  match readWord word text with
  | .ok rest => some (token, rest)
  | .error _ => none

/-- Read the token of a value without parts that starts with a character. -/
def readScalar? : (first : Char) → List Char → Option (Token × List Char)
  | '"', rest => (splitString? rest).map fun (written, rest) => (.text written, rest)
  | 'n', rest => readWordAs? .null ['u', 'l', 'l'] rest
  | 't', rest => readWordAs? .other ['r', 'u', 'e'] rest
  | 'f', rest => readWordAs? .other ['a', 'l', 's', 'e'] rest
  | '-', rest => (skipNumber? rest).map (.other, ·)
  | digit, rest => (skipNumber? (digit :: rest)).map (.other, ·)

/-- Read the token that starts with a character. -/
def readToken? (first : Char) (rest : List Char) : Option (Token × List Char) :=
  match mark? first with
  | some token => some (token, rest)
  | none => readScalar? first rest

theorem length_splitString? {text written rest : List Char}
    (h : splitString? text = some (written, rest)) : rest.length < text.length := by
  fun_induction splitString? text generalizing written rest with
  | case1 | case4 | case6 | case7 => cases h
  | case2 =>
    cases h
    exact Nat.lt_succ_self _
  | case3 a b c d more hHex ih =>
    obtain ⟨parts, hMore, hEq⟩ := Option.map_eq_some_iff.mp h
    cases hEq
    have hShorter := ih hMore
    simp only [List.length_cons]
    omega
  | case5 c more _ hEscaped ih =>
    obtain ⟨parts, hMore, hEq⟩ := Option.map_eq_some_iff.mp h
    cases hEq
    exact Nat.lt_succ_of_lt (Nat.lt_succ_of_lt (ih hMore))
  | case8 c more _ _ _ _ ih =>
    obtain ⟨parts, hMore, hEq⟩ := Option.map_eq_some_iff.mp h
    cases hEq
    exact Nat.lt_succ_of_lt (ih hMore)

section Numbers

variable {text rest : List Char}

theorem length_skipDigits? (h : skipDigits? text = some rest) : rest.length < text.length := by
  unfold skipDigits? at h
  split at h
  next hDigit =>
    cases h
    cases text with
    | nil => cases hDigit
    | cons c digits =>
      have hFirst : (Decimal.digit? c).isSome = true := hDigit
      rw [List.dropWhile_cons, if_pos hFirst]
      exact Nat.lt_succ_of_le (List.dropWhile_sublist _).length_le
  · cases h

theorem length_skipSign (text : List Char) : (skipSign text).length ≤ text.length := by
  unfold skipSign
  split
  · exact Nat.le_succ _
  · exact Nat.le_succ _
  · exact Nat.le_refl _

theorem length_skipExponent? (h : skipExponent? text = some rest) :
    rest.length ≤ text.length := by
  have behindMark : ∀ more, skipDigits? (skipSign more) = some rest →
      rest.length ≤ more.length + 1 := by
    intro more hMore
    have hDigits := length_skipDigits? hMore
    have hSign := length_skipSign more
    omega
  unfold skipExponent? at h
  split at h
  · exact behindMark _ h
  · exact behindMark _ h
  · cases h
    exact Nat.le_refl _

theorem length_skipFraction? (h : skipFraction? text = some rest) :
    rest.length ≤ text.length := by
  unfold skipFraction? at h
  split at h
  · obtain ⟨behind, hDigits, hExponent⟩ := Option.bind_eq_some_iff.mp h
    have hFirst := length_skipDigits? hDigits
    have hSecond := length_skipExponent? hExponent
    simp only [List.length_cons]
    omega
  · exact length_skipExponent? h

theorem length_skipNumber? (h : skipNumber? text = some rest) : rest.length < text.length := by
  unfold skipNumber? at h
  split at h
  · split at h
    · cases h
    · exact Nat.lt_succ_of_le (length_skipFraction? h)
  · obtain ⟨behind, hDigits, hFraction⟩ := Option.bind_eq_some_iff.mp h
    exact Nat.lt_of_le_of_lt (length_skipFraction? hFraction) (length_skipDigits? hDigits)

end Numbers

theorem length_readWordAs? {token found : Token} {word text rest : List Char}
    (h : readWordAs? token word text = some (found, rest)) : rest.length ≤ text.length := by
  unfold readWordAs? at h
  split at h
  next hWord =>
    cases h
    exact length_readWord hWord
  · cases h

theorem length_readToken? {first : Char} {text rest : List Char} {token : Token}
    (h : readToken? first text = some (token, rest)) : rest.length ≤ text.length := by
  unfold readToken? at h
  split at h
  · cases h
    exact Nat.le_refl _
  · unfold readScalar? at h
    split at h
    · obtain ⟨parts, hParts, hEq⟩ := Option.map_eq_some_iff.mp h
      cases hEq
      exact Nat.le_of_lt (length_splitString? hParts)
    · exact length_readWordAs? h
    · exact length_readWordAs? h
    · exact length_readWordAs? h
    · obtain ⟨behind, hNumber, hEq⟩ := Option.map_eq_some_iff.mp h
      cases hEq
      exact Nat.le_of_lt (length_skipNumber? hNumber)
    · obtain ⟨behind, hNumber, hEq⟩ := Option.map_eq_some_iff.mp h
      cases hEq
      exact Nat.le_of_lt_succ (length_skipNumber? hNumber)

/-- The tokens of a text, which stand between blanks. -/
def tokens? (text : List Char) : Option (List Token) :=
  match _hText : skipBlanks text with
  | [] => some []
  | first :: rest =>
    match _h : readToken? first rest with
    | none => none
    | some (token, more) => (tokens? more).map (token :: ·)
termination_by text.length
decreasing_by
  have hBlanks := length_skipBlanks text
  rw [_hText] at hBlanks
  exact Nat.lt_of_le_of_lt (length_readToken? _h) hBlanks

/-! ## Documents -/

/-- A document with its texts as they are written. Numbers and truth values are not told apart. -/
inductive Raw where
  | text (written : List Char)
  | null
  | other
  | array (items : List Raw)
  | object (members : List (List Char × Raw))

namespace Raw

/-- An array or object that is still open. -/
inductive Frame where
  | array (items : List Raw)
  /-- The members read so far, and the name whose value is being read. -/
  | object (members : List (List Char × Raw)) (name : List Char)

mutual

/-- Read a value inside the open arrays and objects. -/
def readValue (stack : List Frame) : List Token → Option Raw
  | .openArray :: .closeArray :: rest => finish stack (.array []) rest
  | .openArray :: rest => readValue (.array [] :: stack) rest
  | .openObject :: .closeObject :: rest => finish stack (.object []) rest
  | .openObject :: .text name :: .colon :: rest => readValue (.object [] name :: stack) rest
  | .text written :: rest => finish stack (.text written) rest
  | .null :: rest => finish stack .null rest
  | .other :: rest => finish stack .other rest
  | _ => none

/-- Put a finished value where it belongs and go on behind it. -/
def finish (stack : List Frame) (value : Raw) (tokens : List Token) : Option Raw :=
  match stack, tokens with
  | [], [] => some value
  | .array items :: stack, .closeArray :: rest => finish stack (.array (items ++ [value])) rest
  | .array items :: stack, .comma :: rest => readValue (.array (items ++ [value]) :: stack) rest
  | .object members name :: stack, .closeObject :: rest =>
    finish stack (.object (members ++ [(name, value)])) rest
  | .object members name :: stack, .comma :: .text next :: .colon :: rest =>
    readValue (.object (members ++ [(name, value)]) next :: stack) rest
  | _, _ => none

end

/-- The document that bytes write. -/
def read? (bytes : List UInt8) : Option Raw := (tokens? (octets bytes)).bind (readValue [])

/-- The text of a string, of which the bytes are UTF-8 and the escapes stand for characters. -/
def readText? (written : List Char) : Option String :=
  match Utf8.decode (bytesOf written) with
  | .error _ => none
  | .ok decoded =>
    match readString (decoded.toList ++ ['"']) with
    | .error _ => none
    | .ok (chars, _) => some (String.ofList chars)

def text? : Raw → Option String
  | text written => readText? written
  | _ => none

end Raw

end ConfigStore.Json
