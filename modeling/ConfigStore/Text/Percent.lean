import ConfigStore.Text.Utf8

/-!
# Percent encoding

Bytes written as a percent sign and two hexadecimal digits.

* `Percent.encode` writes the UTF-8 bytes of each character that may not stand for itself.
* `Percent.decode` reads such triples back to bytes. A percent sign without two digits behind
  it stands for itself.
-/

namespace ConfigStore.Percent

/-- A hexadecimal digit, in upper case. -/
def hexDigit (n : Nat) : Char :=
  if n < 10 then Char.ofNat ('0'.toNat + n) else Char.ofNat ('A'.toNat + (n - 10))

def hexValue? (c : Char) : Option Nat :=
  if '0' ≤ c ∧ c ≤ '9' then some (c.toNat - '0'.toNat)
  else if 'a' ≤ c ∧ c ≤ 'f' then some (c.toNat - 'a'.toNat + 10)
  else if 'A' ≤ c ∧ c ≤ 'F' then some (c.toNat - 'A'.toNat + 10)
  else none

def encodeByte (b : UInt8) : List Char :=
  ['%', hexDigit (b.toNat / 16), hexDigit (b.toNat % 16)]

/-- A character as it is written where `escaped` characters may not stand for themselves. -/
def encodeChar (escaped : Char → Bool) (c : Char) : List Char :=
  if escaped c then (String.utf8EncodeChar c).flatMap encodeByte else [c]

def encode (escaped : Char → Bool) (text : List Char) : List Char :=
  text.flatMap (encodeChar escaped)

/-- The bytes that a text stands for. -/
def decode : List Char → List UInt8
  | [] => []
  | c :: rest =>
    match c, rest with
    | '%', h :: l :: more =>
      match hexValue? h, hexValue? l with
      | some high, some low => UInt8.ofNat (16 * high + low) :: decode more
      | _, _ => String.utf8EncodeChar '%' ++ decode (h :: l :: more)
    | c, rest => String.utf8EncodeChar c ++ decode rest

end ConfigStore.Percent
