/-!
# Base64

Bytes in groups of three, written as four symbols of six bits each. A last group of one or
two bytes is filled up with padding, and its unused bits are zero.

* `Base64.encode` writes bytes.
* `Base64.decode` accepts exactly the written forms and says what is wrong with any other.
-/

namespace ConfigStore.Base64

/-- The symbol of six bits. -/
def symbol (n : Nat) : UInt8 :=
  if n < 26 then UInt8.ofNat (n + 65)
  else if n < 52 then UInt8.ofNat (n - 26 + 97)
  else if n < 62 then UInt8.ofNat (n - 52 + 48)
  else if n = 62 then 43
  else 47

/-- The six bits of a symbol. -/
def value? (b : UInt8) : Option Nat :=
  let n := b.toNat
  if 65 ≤ n ∧ n ≤ 90 then some (n - 65)
  else if 97 ≤ n ∧ n ≤ 122 then some (n - 97 + 26)
  else if 48 ≤ n ∧ n ≤ 57 then some (n - 48 + 52)
  else if n = 43 then some 62
  else if n = 47 then some 63
  else none

/-- The byte `=`. -/
def padding : UInt8 := 61

def encode : List UInt8 → List UInt8
  | [] => []
  | [a] =>
    let n := a.toNat * 16
    [symbol (n / 64), symbol (n % 64), padding, padding]
  | [a, b] =>
    let n := (a.toNat * 256 + b.toNat) * 4
    [symbol (n / 4096), symbol (n / 64 % 64), symbol (n % 64), padding]
  | a :: b :: c :: rest =>
    let n := (a.toNat * 256 + b.toNat) * 256 + c.toNat
    symbol (n / 262144) :: symbol (n / 4096 % 64) :: symbol (n / 64 % 64) :: symbol (n % 64) ::
      encode rest

/-- Why a text is not the written form of any bytes. -/
inductive Fault where
  | badSymbol (byte : UInt8) (offset : Nat)
  | badLength (length : Nat)
  /-- The last symbol of a short group has unused bits that are not zero. -/
  | badLastSymbol (byte : UInt8) (offset : Nat)
  | badPadding
deriving DecidableEq, Repr

def Fault.message : Fault → String
  | badSymbol byte offset => s!"Invalid symbol {byte}, offset {offset}."
  | badLength length => s!"Invalid input length: {length}"
  | badLastSymbol byte offset => s!"Invalid last symbol {byte}, offset {offset}."
  | badPadding => "Invalid padding"

/-- The six bits of a symbol at an offset. -/
def valueAt (byte : UInt8) (offset : Nat) : Except Fault Nat :=
  match value? byte with
  | some value => .ok value
  | none => .error (.badSymbol byte offset)

/-- The symbols of the last group up to its padding, with their values. Padding stands after
at least two symbols and is followed by padding only. -/
def lastValues (offset : Nat) : (index : Nat) → List UInt8 → Except Fault (List (UInt8 × Nat))
  | _, [] => .ok []
  | index, byte :: rest =>
    if byte = padding then
      if index < 2 ∨ ¬ rest.all (· = padding) then .error (.badSymbol padding (offset + index))
      else .ok []
    else do
      let value ← valueAt byte (offset + index)
      let values ← lastValues offset (index + 1) rest
      return (byte, value) :: values

/-- The bytes of the last group, which starts at `offset` and has at most four symbols. -/
def decodeLast (offset : Nat) (group : List UInt8) : Except Fault (List UInt8) := do
  if group = [] then return []
  let values ← lastValues offset 0 group
  if values.length < 2 then throw (.badLength (offset + values.length))
  if group.length % 4 ≠ 0 then throw .badPadding
  let last := values.getLast?.map Prod.fst |>.getD 0
  match values.map Prod.snd with
  | [a, b] =>
    if b % 16 ≠ 0 then throw (.badLastSymbol last (offset + 1))
    return [UInt8.ofNat (a * 4 + b / 16)]
  | [a, b, c] =>
    if c % 4 ≠ 0 then throw (.badLastSymbol last (offset + 2))
    return [UInt8.ofNat (a * 4 + b / 16), UInt8.ofNat (b % 16 * 16 + c / 4)]
  | [a, b, c, d] =>
    return [UInt8.ofNat (a * 4 + b / 16), UInt8.ofNat (b % 16 * 16 + c / 4),
      UInt8.ofNat (c % 4 * 64 + d)]
  | _ => throw .badPadding

/-- The bytes of the groups that start at `offset`. -/
def decodeFrom (offset : Nat) : List UInt8 → Except Fault (List UInt8)
  | a :: b :: c :: d :: e :: rest => do
    let v ← valueAt a offset
    let w ← valueAt b (offset + 1)
    let x ← valueAt c (offset + 2)
    let y ← valueAt d (offset + 3)
    let bytes ← decodeFrom (offset + 4) (e :: rest)
    return UInt8.ofNat (v * 4 + w / 16) :: UInt8.ofNat (w % 16 * 16 + x / 4) ::
      UInt8.ofNat (x % 4 * 64 + y) :: bytes
  | group => decodeLast offset group

/-- The bytes that a text writes. A last symbol that is no symbol and stands alone in its
group, such as a line feed, is reported first. -/
def decode (text : List UInt8) : Except Fault (List UInt8) :=
  match text.getLast? with
  | some byte =>
    if text.length % 4 = 1 ∧ byte ≠ padding ∧ value? byte = none then
      .error (.badSymbol byte (text.length - 1))
    else decodeFrom 0 text
  | none => .ok []

end ConfigStore.Base64
