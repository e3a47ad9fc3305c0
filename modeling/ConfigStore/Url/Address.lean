import ConfigStore.Decimal.Integer
import ConfigStore.Text.Percent

/-!
# Internet addresses

* `Ipv4.read?` reads up to four numbers in decimal, octal or hexadecimal digits, the last of
  which fills all the bytes that are left.
* `Ipv6.read?` reads eight groups of hexadecimal digits, where one run of zero groups may be
  left out and the last two groups may be written as four decimal bytes.
-/

namespace ConfigStore

/-- The parts of a text between occurrences of a character, none of them left out. -/
def parts (separator : Char) : List Char → List (List Char)
  | [] => [[]]
  | c :: rest =>
    if c = separator then [] :: parts separator rest
    else
      match parts separator rest with
      | [] => [[c]]
      | part :: others => (c :: part) :: others

namespace Ipv4

open scoped Decimal

/-- A number in a base, or nothing if some character is no digit of it. -/
def digitsIn? (base : Nat) : (value : Nat) → List Char → Option Nat
  | value, [] => some value
  | value, c :: rest =>
    match Percent.hexValue? c with
    | some d => if d < base then digitsIn? base (value * base + d) rest else none
    | none => none

/-- The number of a part. A leading zero marks octal digits, `0x` hexadecimal ones; nothing
behind the mark is zero. -/
def number? : List Char → Option Nat
  | [] => none
  | ['0'] => some 0
  | '0' :: c :: rest =>
    if c = 'x' ∨ c = 'X' then digitsIn? 16 0 rest else digitsIn? 8 0 (c :: rest)
  | digits => digitsIn? 10 0 digits

/-- The parts of a name without an empty one at the end. -/
def numberParts (name : List Char) : List (List Char) :=
  let all := parts '.' name
  if 1 < all.length ∧ all.getLast? = some [] then all.dropLast else all

/-- Whether the last part of a name is a number, so that the name has to be an address. -/
def endsInNumber (name : List Char) : Bool :=
  match (numberParts name).getLast? with
  | none => false
  | some last => (!last.isEmpty && last.all Char.isDigit) || (number? last).isSome

/-- The address of numbers, the last of which fills the bytes that the others leave. -/
def ofNumbers? (numbers : List Nat) : Option Nat :=
  match numbers.getLast? with
  | none => none
  | some last =>
    let front := numbers.dropLast
    if 3 < front.length ∨ ¬ front.all (· < 256) ∨ 256 ^ (4 - front.length) ≤ last then none
    else some (front.foldl (fun n byte => n * 256 + byte) 0 * 256 ^ (4 - front.length) + last)

/-- The address that a name writes, as a number of 32 bits. -/
def read? (name : List Char) : Option Nat :=
  ((numberParts name).mapM number?).bind ofNumbers?

/-- Four bytes in decimal. -/
def write (address : Nat) : List Char :=
  ['.'].intercalate
    ([address / 256 ^ (3 : Nat), address / 256 ^ (2 : Nat) % 256, address / 256 % 256,
      address % 256].map (Nat.toDigits 10))

end Ipv4

namespace Ipv6

/-- At most `count` hexadecimal digits at the front of a text. -/
def takeHex : (count value : Nat) → List Char → Nat × List Char
  | 0, value, rest => (value, rest)
  | _ + 1, value, [] => (value, [])
  | count + 1, value, c :: rest =>
    match Percent.hexValue? c with
    | some d => takeHex count (value * 16 + d) rest
    | none => (value, c :: rest)

theorem length_takeHex (count value : Nat) (text : List Char) :
    (takeHex count value text).2.length ≤ text.length := by
  induction count generalizing value text with
  | zero => exact Nat.le_refl _
  | succ count ih =>
    cases text with
    | nil => exact Nat.le_refl _
    | cons c rest =>
      rw [takeHex]
      split
      · exact Nat.le_succ_of_le (ih ..)
      · exact Nat.le_refl _

/-- A byte in decimal without leading zeros. -/
def byte? (digits : List Char) : Option Nat := do
  let value ← Decimal.digits? digits
  if 255 < value ∨ (1 < digits.length ∧ digits.head? = some '0') then none else some value

/-- The two groups written as four decimal bytes. -/
def byteGroups? (text : List Char) : Option (List Nat) := do
  match ← (parts '.' text).mapM byte? with
  | [a, b, c, d] => some [a * 256 + b, c * 256 + d]
  | _ => none

/-- The groups of an address, and behind how many of them groups are left out. The gap itself
stands for at least one group. -/
def groups? (groups : List Nat) (gap : Option Nat) (text : List Char) :
    Option (List Nat × Option Nat) :=
  match text with
  | [] => some (groups, gap)
  | c :: rest =>
    if groups.length = 8 then none
    else if c = ':' then
      if gap.isSome then none else groups? (groups ++ [0]) (some (groups.length + 1)) rest
    else
      match _h : takeHex 4 0 (c :: rest) with
      | (value, []) => some (groups ++ [value], gap)
      | (value, d :: more) =>
        if d = '.' then
          if (Percent.hexValue? c).isNone ∨ 6 < groups.length then none
          else (byteGroups? (c :: rest)).map fun last => (groups ++ last, gap)
        else if d = ':' ∧ more ≠ [] then groups? (groups ++ [value]) gap more
        else none
termination_by text.length
decreasing_by
  · simp
  · have := length_takeHex 4 0 (c :: rest)
    rw [_h] at this
    simp only [List.length_cons] at this ⊢
    omega

/-- The eight groups that a text writes. -/
def read? (text : List Char) : Option (List Nat) := do
  let start ←
    match text with
    | ':' :: ':' :: rest => groups? [0] (some 1) rest
    | ':' :: _ => none
    | [] => none
    | [_] => none
    | text => groups? [] none text
  match start with
  | (groups, some gap) =>
    some (groups.take gap ++ List.replicate (8 - groups.length) 0 ++ groups.drop gap)
  | (groups, none) => if groups.length = 8 then some groups else none

/-- The first of the longest runs of zeros: where it starts and how long it is. -/
def longestZeros (groups : List Nat) : Nat × Nat :=
  (List.range groups.length).foldl
    (fun best start =>
      let length := ((groups.drop start).takeWhile (· = 0)).length
      if best.2 < length then (start, length) else best)
    (0, 0)

def writeGroups (groups : List Nat) : List Char :=
  [':'].intercalate (groups.map (Nat.toDigits 16))

/-- Eight groups in hexadecimal, the longest run of at least two zeros left out. -/
def write (groups : List Nat) : List Char :=
  let (start, length) := longestZeros groups
  if length < 2 then writeGroups groups
  else writeGroups (groups.take start) ++ [':', ':'] ++ writeGroups (groups.drop (start + length))

end Ipv6

end ConfigStore
