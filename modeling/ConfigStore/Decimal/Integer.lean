/-!
# Integers in decimal

Reading and writing integers as decimal digits.

* `Decimal.digits?` reads a nonempty run of ASCII digits.
* `Decimal.readInt?` allows one sign in front and keeps to a range; `Decimal.readIndex?`
  reads a position, for which a plus sign may be written but no minus sign.
* `Decimal.writeInt` writes the sign of a negative number and no leading zero.
-/

namespace ConfigStore.Decimal

/-! Powers are those of the numbers themselves, whatever other instances there are. -/

scoped instance (priority := high) powNat : Pow Nat Nat := instPowNat

scoped instance (priority := high) powInt : Pow Int Nat := instPowNat

/-- The value of a digit. -/
def digit? (c : Char) : Option Nat :=
  if '0' ≤ c ∧ c ≤ '9' then some (c.toNat - '0'.toNat) else none

theorem digit?_lt {c : Char} {d : Nat} (h : digit? c = some d) : d < 10 := by
  unfold digit? at h
  split at h
  next hRange =>
    have hLast : c.toNat ≤ '9'.toNat := hRange.2
    cases h
    simp at hLast ⊢
    omega
  · cases h

/-- Go on reading digits after those that gave `value`. -/
def digitsFrom? (value : Nat) : List Char → Option Nat
  | [] => some value
  | c :: rest =>
    match digit? c with
    | some d => digitsFrom? (10 * value + d) rest
    | none => none

/-- The number written by one or more digits. -/
def digits? : List Char → Option Nat
  | [] => none
  | digits => digitsFrom? 0 digits

/-- The bounds of a signed number with so many bits. -/
def fitsBits (bits : Nat) (value : Int) : Bool :=
  -(2 ^ (bits - 1) : Int) ≤ value && value < 2 ^ (bits - 1)

/-- The integer that a text writes, if it has room in so many bits. -/
def readInt? (bits : Nat) (text : String) : Option Int := do
  let value ←
    match text.toList with
    | '-' :: rest => (digits? rest).map fun n => -(n : Int)
    | '+' :: rest => (digits? rest).map Int.ofNat
    | digits => (digits? digits).map Int.ofNat
  if fitsBits bits value then some value else none

/-- The position that a text writes, if it is below `2 ^ 64`. -/
def readIndex? (text : String) : Option Nat := do
  let value ←
    match text.toList with
    | '+' :: rest => digits? rest
    | digits => digits? digits
  if value < 2 ^ (64 : Nat) then some value else none

def writeNat (n : Nat) : String := String.ofList (Nat.toDigits 10 n)

def writeInt : Int → String
  | .ofNat n => writeNat n
  | .negSucc n => "-" ++ writeNat (n + 1)

end ConfigStore.Decimal
