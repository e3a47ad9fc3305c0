import ConfigStore.Decimal.Integer
import ConfigStore.Decimal.Shortest

/-!
# Layouts of doubles

How doubles are written as text and read from it.

* `Layout.value` is the layout of stored values: never an exponent, and no decimal point
  for an integer.
* `Layout.document` is the layout of numbers in documents: always a decimal point or an
  exponent, and an exponent outside of `1e-5 ≤ |x| < 1e16`.
* `readDouble?` reads a stored value, rounded to the nearest double.
-/

namespace ConfigStore.Decimal

/-- The decisions of a layout for finite doubles. -/
structure Layout where
  tie : Tie
  /-- Whether a number whose decimal point stands after so many digits is written without an
  exponent. -/
  positional : Int → Bool
  /-- What follows the digits of an integer. -/
  integerEnd : String

def Layout.value : Layout where
  tie := .up
  positional _ := true
  integerEnd := ""

def Layout.document : Layout where
  tie := .even
  positional point := -5 < point && point ≤ 16
  integerEnd := ".0"

def zeros (count : Nat) : String := String.ofList (List.replicate count '0')

/-- Digits with the decimal point after `point` of them. -/
def writePositional (digits : List Char) (point : Int) (integerEnd : String) : String :=
  if point ≤ 0 then "0." ++ zeros point.natAbs ++ String.ofList digits
  else if digits.length ≤ point.natAbs then
    String.ofList digits ++ zeros (point.natAbs - digits.length) ++ integerEnd
  else
    String.ofList (digits.take point.natAbs) ++ "." ++ String.ofList (digits.drop point.natAbs)

/-- Digits with the decimal point after the first, and a signed exponent. -/
def writeScientific (digits : List Char) (point : Int) : String :=
  let exponent := point - 1
  let sign := if exponent < 0 then "" else "+"
  let fraction := match digits.drop 1 with
    | [] => ""
    | rest => "." ++ String.ofList rest
  String.ofList (digits.take 1) ++ fraction ++ "e" ++ sign ++ writeInt exponent

/-- The text of `significand * 2 ^ exponent`. -/
def Layout.writeSize (layout : Layout) (significand : Nat) (exponent : Int) : String :=
  if significand = 0 then "0" ++ layout.integerEnd
  else
    let decimal := shortest layout.tie significand exponent
    let digits := Nat.toDigits 10 decimal.coefficient
    let point := decimal.exponent + digits.length
    if layout.positional point then writePositional digits point layout.integerEnd
    else writeScientific digits point

def Layout.write (layout : Layout) : Double → String
  | .nan => "NaN"
  | .infinite negative => (if negative then "-" else "") ++ "inf"
  | .finite negative significand exponent =>
    (if negative then "-" else "") ++ layout.writeSize significand exponent

/-! ## Reading -/

/-- The leading digits of a text, and the rest. -/
def takeDigits (text : List Char) : List Char × List Char :=
  text.span fun c => (digit? c).isSome

/-- A decimal exponent: nothing, or a mark, an optional sign and digits. -/
def readExponent? : List Char → Option Int
  | [] => some 0
  | mark :: rest =>
    if mark = 'e' ∨ mark = 'E' then
      match rest with
      | '-' :: digits => (digits? digits).map fun n => -(n : Int)
      | '+' :: digits => (digits? digits).map Int.ofNat
      | digits => (digits? digits).map Int.ofNat
    else none

/-- Digits with an optional point among them and an optional exponent. -/
def readSize? (negative : Bool) (text : List Char) : Option Double := do
  let (whole, rest) := takeDigits text
  let (fraction, rest) :=
    match rest with
    | '.' :: rest => takeDigits rest
    | rest => ([], rest)
  let coefficient ← digits? (whole ++ fraction)
  let exponent ← readExponent? rest
  some (Double.ofDecimal negative coefficient (exponent - fraction.length))

/-- The double that a text writes. Infinity and the absence of a number are spelled out, in
any case of letters. -/
def readDouble? (text : String) : Option Double :=
  let (negative, rest) :=
    match text.toList with
    | '-' :: rest => (true, rest)
    | '+' :: rest => (false, rest)
    | rest => (false, rest)
  let word := String.ofList (rest.map Char.toLower)
  if word = "inf" ∨ word = "infinity" then some (.infinite negative)
  else if word = "nan" then some .nan
  else readSize? negative rest

end ConfigStore.Decimal
