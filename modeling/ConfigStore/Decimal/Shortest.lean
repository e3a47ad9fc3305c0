import ConfigStore.Decimal.Double

/-!
# Shortest decimals

The decimal with the fewest digits among those that round to a given double, and the one
nearest to the double where there are several of that length.

For a number of digits, the double lies on a point of a decimal grid or between two of its
points. If any point of the grid rounds to the double, one of these does, so it is enough to
test them for one digit, two digits and so on.
-/

namespace ConfigStore.Decimal

/-- The number `coefficient * 10 ^ exponent`. -/
structure Digits where
  coefficient : Nat
  exponent : Int
deriving DecidableEq, Repr

/-- Which of two equally near decimals is taken. -/
inductive Tie where
  | up
  | even
deriving DecidableEq, Repr

/-- The same number without zeros at the end of its coefficient. -/
def Digits.strip (coefficient : Nat) (exponent : Int) : Digits :=
  if coefficient ≠ 0 ∧ coefficient % 10 = 0 then strip (coefficient / 10) (exponent + 1)
  else ⟨coefficient, exponent⟩
termination_by coefficient
decreasing_by omega

/-- The numbers that round to a double: `low`, `value` and `high` over a common denominator,
the ends included or not. -/
structure Interval where
  low : Nat
  value : Nat
  high : Nat
  den : Nat
  closed : Bool

/-- The numbers that round to `significand * 2 ^ exponent`, in quarters of that unit. Below a
power of two the next double is only half as far away. -/
def interval (significand : Nat) (exponent : Int) : Interval :=
  let quarters := exponent - 2
  let unit := if quarters < 0 then 1 else 2 ^ quarters.natAbs
  let halved := significand = 2 ^ (52 : Nat) ∧ Double.leastExponent < exponent
  { low := (4 * significand - if halved then 1 else 2) * unit
    value := 4 * significand * unit
    high := (4 * significand + 2) * unit
    den := if quarters < 0 then 2 ^ quarters.natAbs else 1
    closed := significand % 2 = 0 }

/-- The interval in units of `10 ^ exponent`. -/
def Interval.scale (i : Interval) (exponent : Int) : Interval :=
  let power := 10 ^ exponent.natAbs
  if exponent < 0 then
    { i with low := i.low * power, value := i.value * power, high := i.high * power }
  else { i with den := i.den * power }

/-- Whether an integer lies in the interval. -/
def Interval.holds (i : Interval) (n : Nat) : Bool :=
  let scaled := n * i.den
  if i.closed then i.low ≤ scaled && scaled ≤ i.high else i.low < scaled && scaled < i.high

/-- The integer in the interval that is nearest to its value. -/
def Interval.nearest? (i : Interval) (tie : Tie) : Option Nat :=
  let lower := i.value / i.den
  let rest := i.value % i.den
  if rest = 0 then some lower
  else
    match i.holds lower, i.holds (lower + 1) with
    | false, false => none
    | true, false => some lower
    | false, true => some (lower + 1)
    | true, true =>
      if 2 * rest < i.den then some lower
      else if i.den < 2 * rest then some (lower + 1)
      else if tie = .even ∧ lower % 2 = 0 then some lower
      else some (lower + 1)

/-- The exponent of the leading decimal digit of `num / den`. -/
def leadingExponent (num den : Nat) : Int :=
  let guess := ((num.log2 : Int) - den.log2) * 30103 / 100000
  let reaches (exponent : Int) : Bool :=
    if exponent < 0 then den ≤ num * 10 ^ exponent.natAbs else den * 10 ^ exponent.natAbs ≤ num
  if reaches (guess + 1) then guess + 1
  else if reaches guess then guess
  else guess - 1

/-- The shortest decimal that rounds to `significand * 2 ^ exponent`. Seventeen digits always
suffice. -/
def shortest (tie : Tie) (significand : Nat) (exponent : Int) : Digits :=
  if significand = 0 then ⟨0, 0⟩
  else
    let range := interval significand exponent
    let leading := leadingExponent range.value range.den
    let attempt (digits : Nat) : Option Digits :=
      let grid := leading - digits
      ((range.scale grid).nearest? tie).map (Digits.strip · grid)
    ((List.range 18).findSome? attempt).getD ⟨significand, 0⟩

end ConfigStore.Decimal
