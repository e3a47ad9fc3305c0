import ConfigStore.Text.Blank
import ConfigStore.Text.Percent

/-!
# Tables of characters

A table is a text of words between blanks. A word names a character by its number in
hexadecimal digits, or a range of characters by the first and last of them with a dash
between.

* `Ranges.read` reads a table of characters and ranges.
* `Ranges.holds` tells whether a character is in it.
-/

namespace ConfigStore

/-- The first and last character of a range, by their numbers. -/
structure CharRange where
  first : Nat
  last : Nat
deriving DecidableEq, Repr

abbrev Ranges := List CharRange

namespace CharRange

def holds (range : CharRange) (c : Char) : Bool :=
  range.first ≤ c.toNat && c.toNat ≤ range.last

end CharRange

namespace Ranges

/-- The number that hexadecimal digits write. -/
def number (digits : List Char) : Nat :=
  digits.foldl (fun n c => 16 * n + (Percent.hexValue? c).getD 0) 0

/-- The range that a word writes, where `dash` stands between its ends. -/
def readRange (dash : Char) (word : List Char) : CharRange :=
  let first := number (word.takeWhile (· ≠ dash))
  match word.dropWhile (· ≠ dash) with
  | [] => ⟨first, first⟩
  | _ :: last => ⟨first, number last⟩

/-- Add a character to the words of a table, of which the last one may go on. Words and their
letters are kept from the end. -/
def addToWords : List (List Char) × List Char → Char → List (List Char) × List Char
  | (words, []), c => if Text.isBlank c then (words, []) else (words, [c])
  | (words, d :: word), c =>
    if Text.isBlank c then ((d :: word).reverse :: words, []) else (words, c :: d :: word)

/-- The words of a table. -/
def words (table : String) : List (List Char) :=
  let (words, last) := table.toList.foldl addToWords ([], [])
  (if last = [] then words else last.reverse :: words).reverse

def read (table : String) : Ranges := (words table).map (readRange '-')

def holds (ranges : Ranges) (c : Char) : Bool := ranges.any (·.holds c)

end Ranges

end ConfigStore
