import ConfigStore.Path
import ConfigStore.Text.Blank
import ConfigStore.Text.Cut

/-!
# Lines of an INI file

A line is empty, a header `[section]`, or an entry `key = value`. Blanks around a line and
around its parts carry no meaning, and a line that starts with `;` or `#` is a comment. Names
of sections and keys are paths.

* `Ini.Line.read` reads a line.
* `Ini.storableName` and `Ini.storableValue` tell which names and values a line can carry.
-/

namespace ConfigStore.Ini

/-- The separator in the names of sections and keys. -/
def separator : Char := '/'

inductive Line where
  /-- Neither a header nor an entry. -/
  | empty
  | header (path : List String)
  | entry (key : List String) (value : String)
deriving DecidableEq, Repr

/-- Why a line cannot be read. -/
inductive LineFault where
  | unterminatedHeader
  | emptySection
  | noEquals (line : String)
  | emptyKey
deriving DecidableEq, Repr

namespace LineFault

def message : LineFault → String
  | unterminatedHeader => "unterminated section header"
  | emptySection => "empty section name"
  | noEquals line => s!"expected 'key = value', found '{line}'"
  | emptyKey => "empty key"

end LineFault

namespace Line

/-- The segments of the name of a section or key. -/
def segments (name : List Char) : List String :=
  Path.split separator (String.ofList (Text.trimChars name))

/-- The header whose text follows the opening bracket. -/
def readHeader (text : List Char) : Except LineFault Line :=
  if text.getLast? = some ']' then
    match segments text.dropLast with
    | [] => .error .emptySection
    | path => .ok (header path)
  else .error .unterminatedHeader

def readEntry (text : List Char) : Except LineFault Line :=
  match Text.cutAt '=' text with
  | (_, none) => .error (.noEquals (String.ofList text))
  | (key, some value) =>
    match segments key with
    | [] => .error .emptyKey
    | key => .ok (entry key (String.ofList (Text.trimChars value)))

/-- The line that a text without blanks around it writes. -/
def readTrimmed (text : List Char) : Except LineFault Line :=
  match text with
  | [] => .ok empty
  | c :: rest =>
    if c = ';' ∨ c = '#' then .ok empty
    else if c = '[' then readHeader rest
    else readEntry text

def read (text : List Char) : Except LineFault Line :=
  readTrimmed (Text.trimChars text)

end Line

/-! ## What a line can carry -/

def isLineEnd (c : Char) : Bool := c = '\n' || c = '\r'

/-- Characters that a name in a file cannot have. -/
def reserved (c : Char) : Bool :=
  c = '=' || c = '[' || c = ']' || c = separator || isLineEnd c

/-- Whether a name can stand as a section or key of its own. -/
def storableName (name : String) : Bool :=
  let text := name.toList
  !text.any reserved && text.head? ≠ some ';' && text.head? ≠ some '#' &&
    Text.trimChars text = text

def storableValue (value : String) : Bool :=
  let text := value.toList
  !text.any isLineEnd && Text.trimChars text = text

end ConfigStore.Ini
