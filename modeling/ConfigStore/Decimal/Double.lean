import ConfigStore.Decimal.Integer

/-!
# Double precision numbers

Binary floating point numbers with 53 significant bits, as data: every operation is exact
arithmetic on numerators and denominators followed by one rounding to the nearest double,
where a tie goes to the even significand.

* `Double.ofRatio` rounds a quotient of natural numbers.
* `Double.mul` and `Double.div` round the exact product and quotient.
* `Double.ofBits` and `Double.toBits` read and write the 64 bits of the interchange format.
-/

namespace ConfigStore

/-- A finite double is `± significand * 2 ^ exponent`, with `significand < 2 ^ 53` and
`exponent ≥ -1074`; the significand is at least `2 ^ 52` unless the exponent is `-1074`. -/
inductive Double where
  | nan
  | infinite (negative : Bool)
  | finite (negative : Bool) (significand : Nat) (exponent : Int)
deriving DecidableEq, Repr

namespace Double

open scoped Decimal

def leastExponent : Int := -1074

def greatestExponent : Int := 971

def zero (negative : Bool := false) : Double := finite negative 0 leastExponent

def isZero : Double → Bool
  | finite _ 0 _ => true
  | _ => false

def isInfinite : Double → Bool
  | infinite _ => true
  | _ => false

def neg : Double → Double
  | nan => nan
  | infinite negative => infinite !negative
  | finite negative significand exponent => finite (!negative) significand exponent

/-- `num / den` to the nearest integer, a tie to the even one. -/
def roundDiv (num den : Nat) : Nat :=
  let quotient := num / den
  let twice := 2 * (num % den)
  if den < twice ∨ (twice = den ∧ quotient % 2 = 1) then quotient + 1 else quotient

/-- `num / den` in units of `2 ^ exponent`, as a numerator and a denominator. -/
def inUnits (num den : Nat) (exponent : Int) : Nat × Nat :=
  if exponent < 0 then (num * 2 ^ exponent.natAbs, den) else (num, den * 2 ^ exponent.natAbs)

/-- A significand of at most `2 ^ 53` with its exponent, brought into range. -/
def normal (negative : Bool) (significand : Nat) (exponent : Int) : Double :=
  let carried := significand = 2 ^ (53 : Nat)
  let exponent := if carried then exponent + 1 else exponent
  let significand := if carried then 2 ^ (52 : Nat) else significand
  if greatestExponent < exponent then infinite negative
  else finite negative significand exponent

/-- The double nearest to `± num / den`. -/
def ofRatio (negative : Bool) (num den : Nat) : Double :=
  if num = 0 then zero negative
  else
    let guess : Int := (num.log2 : Int) - den.log2 - 52
    let scaled := inUnits num den guess
    let exponent := if scaled.1 / scaled.2 < 2 ^ (52 : Nat) then guess - 1 else guess
    let exponent := max exponent leastExponent
    let scaled := inUnits num den exponent
    normal negative (roundDiv scaled.1 scaled.2) exponent

def ofNat (n : Nat) : Double := ofRatio false n 1

/-- The double nearest to `± coefficient * 10 ^ exponent`. The exponent is cut off where the
result is certainly infinite or zero. -/
def ofDecimal (negative : Bool) (coefficient : Nat) (exponent : Int) : Double :=
  if coefficient = 0 then zero negative
  else
    let magnitude : Int := exponent + (Nat.toDigits 10 coefficient).length
    if 400 < magnitude then infinite negative
    else if magnitude < -400 then zero negative
    else if exponent < 0 then ofRatio negative coefficient (10 ^ exponent.natAbs)
    else ofRatio negative (coefficient * 10 ^ exponent.natAbs) 1

/-- The size of a finite double as a numerator and a denominator. -/
def ratio (significand : Nat) (exponent : Int) : Nat × Nat :=
  if exponent < 0 then (significand, 2 ^ exponent.natAbs)
  else (significand * 2 ^ exponent.natAbs, 1)

def mul : Double → Double → Double
  | nan, _ => nan
  | _, nan => nan
  | infinite s, infinite t => infinite (s != t)
  | infinite s, finite t m _ => if m = 0 then nan else infinite (s != t)
  | finite s m _, infinite t => if m = 0 then nan else infinite (s != t)
  | finite s m p, finite t n q =>
    ofRatio (s != t) ((ratio m p).1 * (ratio n q).1) ((ratio m p).2 * (ratio n q).2)

def div : Double → Double → Double
  | nan, _ => nan
  | _, nan => nan
  | infinite _, infinite _ => nan
  | infinite s, finite t _ _ => infinite (s != t)
  | finite s _ _, infinite t => zero (s != t)
  | finite s m p, finite t n q =>
    if n = 0 then if m = 0 then nan else infinite (s != t)
    else ofRatio (s != t) ((ratio m p).1 * (ratio n q).2) ((ratio m p).2 * (ratio n q).1)

/-! ## Interchange format -/

/-- Read sign, eleven bits of exponent and 52 bits of fraction. -/
def ofBits (bits : UInt64) : Double :=
  let n := bits.toNat
  let negative := n / 2 ^ (63 : Nat) = 1
  let biased : Nat := n / 2 ^ (52 : Nat) % 2 ^ (11 : Nat)
  let fraction : Nat := n % 2 ^ (52 : Nat)
  if biased = 2047 then if fraction = 0 then infinite negative else nan
  else if biased = 0 then finite negative fraction leastExponent
  else finite negative (2 ^ (52 : Nat) + fraction) ((biased : Int) - 1075)

def signBit (negative : Bool) : Nat := if negative then 2 ^ (63 : Nat) else 0

def toBits : Double → UInt64
  | nan => UInt64.ofNat (2047 * 2 ^ (52 : Nat) + 2 ^ (51 : Nat))
  | infinite negative => UInt64.ofNat (signBit negative + 2047 * 2 ^ (52 : Nat))
  | finite negative significand exponent =>
    if significand < 2 ^ (52 : Nat) then UInt64.ofNat (signBit negative + significand)
    else
      UInt64.ofNat (signBit negative + (exponent + 1075).toNat * 2 ^ (52 : Nat) +
        (significand - 2 ^ (52 : Nat)))

end Double

end ConfigStore
