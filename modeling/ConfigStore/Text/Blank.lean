/-!
# Blanks and lines

Blank characters in the sense of the Unicode property `White_Space`, and the lines of a text.

* `Text.trim` drops blanks at both ends.
* `Text.lines` cuts at line feeds; a carriage return before a line feed belongs to the end
  of the line, and the end of the text ends a line only if it is not empty.
-/

namespace ConfigStore.Text

/-- The characters with the property `White_Space`. -/
def isBlank (c : Char) : Bool :=
  let n := c.toNat
  (0x9 ≤ n && n ≤ 0xD) || n = 0x20 || n = 0x85 || n = 0xA0 || n = 0x1680 ||
    (0x2000 ≤ n && n ≤ 0x200A) || n = 0x2028 || n = 0x2029 || n = 0x202F || n = 0x205F ||
    n = 0x3000

def trimStart (text : List Char) : List Char := text.dropWhile isBlank

def trimEnd (text : List Char) : List Char := (text.reverse.dropWhile isBlank).reverse

/-- The characters without the blanks at both ends. -/
def trimChars (text : List Char) : List Char := trimEnd (trimStart text)

def trim (text : String) : String := String.ofList (trimChars text.toList)

/-- The stretches between line feeds. -/
def stretches : List Char → List (List Char)
  | [] => [[]]
  | '\n' :: rest => [] :: stretches rest
  | c :: rest =>
    match stretches rest with
    | [] => [[c]]
    | line :: others => (c :: line) :: others

/-- A line without a carriage return at its end. -/
def dropReturn (line : List Char) : List Char :=
  if line.getLast? = some '\r' then line.dropLast else line

/-- The lines of a text. What follows the last line feed is a line only if it is not empty,
and keeps its carriage return. -/
def lines (text : List Char) : List (List Char) :=
  let all := stretches text
  let last := all.getLast?.getD []
  all.dropLast.map dropReturn ++ if last = [] then [] else [last]

end ConfigStore.Text
