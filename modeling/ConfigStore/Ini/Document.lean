import ConfigStore.Ini.Line
import ConfigStore.Tree.Walk

/-!
# INI documents

A document is a tree of values. An entry stands for the path of its section followed by its
key; entries above the first header belong to no section.

* `Ini.read` reads a document line by line and says which line is at fault.
* `Ini.render` writes one section for each branch that has values of its own, the values
  without section first.
-/

namespace ConfigStore.Ini

/-! ## Reading -/

/-- Why a document cannot be read: a line, or an entry that finds no room in the tree. -/
inductive Reason where
  | line (fault : LineFault)
  | entry (error : Error)
deriving DecidableEq, Repr

def Reason.message : Reason → String
  | line fault => fault.message
  | entry error => error.message

/-- A reason and the line it holds for, counted from one. -/
structure Fault where
  line : Nat
  reason : Reason
deriving DecidableEq, Repr

def Fault.toError (document : String) (fault : Fault) : Error :=
  .parse document (some fault.line) fault.reason.message

/-- What is known between two lines: the section in force and the values so far. -/
structure Progress where
  heading : List String := []
  tree : Tree := Tree.empty separator
deriving DecidableEq

namespace Progress

/-- Go on over one line. -/
def advance (progress : Progress) : Line → Except Error Progress
  | .empty => .ok progress
  | .header path => .ok { progress with heading := path }
  | .entry key value =>
    (progress.tree.insert (progress.heading ++ key) value).map fun tree =>
      { progress with tree }

/-- Read the text of a line and go on over it. -/
def read (progress : Progress) (text : List Char) : Except Reason Progress :=
  match Line.read text with
  | .error fault => .error (.line fault)
  | .ok line => (progress.advance line).mapError .entry

/-- Read lines, the first of which has the given number. -/
def readFrom (progress : Progress) (number : Nat) : List (List Char) → Except Fault Progress
  | [] => .ok progress
  | line :: rest =>
    match progress.read line with
    | .error reason => .error ⟨number, reason⟩
    | .ok progress => progress.readFrom (number + 1) rest

end Progress

/-- The tree that a text writes. -/
def read (text : String) : Except Fault Tree :=
  (({} : Progress).readFrom 1 (Text.lines text.toList)).map (·.tree)

/-! ## Writing -/

/-- A branch with values of its own. -/
structure Section where
  path : List String
  values : List (String × String)
deriving DecidableEq, Repr

namespace Section

/-- The values among the children of a branch. -/
def valuesOf (children : List (String × Node)) : List (String × String) :=
  children.filterMap fun child => child.2.value?.map fun value => (child.1, value)

def ofVisit? : Visit → Option Section
  | .leaf _ _ => none
  | .branch path children =>
    match valuesOf children with
    | [] => none
    | values => some ⟨path, values⟩

def headerLine (path : List String) : List Char :=
  '[' :: (Path.join separator path).toList ++ [']']

def entryLine (value : String × String) : List Char :=
  value.1.toList ++ " = ".toList ++ value.2.toList

/-- The header, which the values without section do without, and the entries. -/
def lines (group : Section) : List (List Char) :=
  let header := if group.path = [] then [] else [headerLine group.path]
  header ++ group.values.map entryLine

end Section

/-- The sections of a tree, those above before those below. -/
def sections (tree : Tree) : List Section := tree.walk.filterMap Section.ofVisit?

/-- The lines of a document, where an empty line stands between sections. -/
def writtenLines (tree : Tree) : List (List Char) :=
  [[]].intercalate ((sections tree).map Section.lines)

/-- The document that holds a tree. -/
def render (tree : Tree) : String :=
  String.ofList ((writtenLines tree).flatMap (· ++ ['\n']))

end ConfigStore.Ini
