import ConfigStore.Url.Domain.Direction
import ConfigStore.Url.Domain.Joining
import ConfigStore.Url.Domain.Mapping
import ConfigStore.Url.Domain.Punycode

/-!
# Domain names

A domain name is a row of labels between dots. Its ASCII form has small letters, and labels
with characters outside of ASCII are written in Punycode behind `xn--`.

* `Domain.ascii?` is the ASCII form of a name.
* `Domain.isPlain` holds of the names that are only brought into small letters for it.
-/

namespace ConfigStore.Url.Domain

def isAscii (text : List Char) : Bool := text.all (·.toNat < 0x80)

/-- What a label in Punycode starts with. -/
def mark : List Char := "xn--".toList

def isMarked (label : List Char) : Bool := mark.isPrefixOf label

def labels (name : List Char) : List (List Char) := Path.pieces '.' name

/-- The label that is written in Punycode behind the mark. It has to be one that would be
written so. -/
def unmark? (label : List Char) : Option (List Char) := do
  let text := label.drop mark.length
  guard (isAscii text)
  let decoded ← Punycode.decode? text
  guard (!isAscii decoded && decoded.all Mapping.keeps)
  guard (Text.Composition.normalize decoded = decoded)
  return decoded

/-- A label as it is meant to be read. -/
def read? (label : List Char) : Option (List Char) :=
  if isMarked label then unmark? label else some label

/-- Whether a label is well formed, except for its direction. -/
def wellFormed (label : List Char) : Bool :=
  !label.head?.any Text.Marks.isMark && Joining.allowed label

/-- In a name with letters from the right, every label has to be readable. -/
def readable (labels : List (List Char)) : Bool :=
  let directions := labels.map (·.map Direction.of)
  !directions.any (·.any Direction.turns) || directions.all Direction.readable

def write (label : List Char) : List Char :=
  if isAscii label then label else mark ++ Punycode.encode label

/-- The ASCII form of a name that is not plain. -/
def convert? (name : List Char) : Option (List Char) := do
  let mapped ← name.mapM Mapping.image?
  let labels ← (labels (Text.Composition.normalize mapped.flatten)).mapM read?
  guard (labels.all wellFormed && readable labels)
  return ['.'].intercalate (labels.map write)

/-- Whether a name has only letters in ASCII, and no labels in Punycode. -/
def isPlain (name : List Char) : Bool :=
  isAscii name && !(labels (name.map Char.toLower)).any isMarked

/-- The ASCII form of a name. -/
def ascii? (name : List Char) : Option (List Char) :=
  if isPlain name then some (name.map Char.toLower) else convert? name

end ConfigStore.Url.Domain
