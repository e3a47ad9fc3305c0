import ConfigStore.Disk
import ConfigStore.Ini.Document
import ConfigStore.Tree.Scoped

/-!
# INI files as stores

A store that holds the tree of an INI file and writes the whole file on every put.

* `IniFile.load` reads the file; a file that is not there is empty.
* `IniFile.assign` sets a value and writes the file; `IniFile.put` is for those who give up on a
  failure.
-/

namespace ConfigStore

structure IniFile where
  file : String
  held : ScopedTree

namespace IniFile

/-- The endings of the names of INI files. -/
def suffixes : List String := [".ini", ".cfg"]

def hasSuffix (file : String) : Bool :=
  suffixes.any fun suffix => suffix.toList.isSuffixOf file.toList

/-- The tree that a file holds. -/
def readTree (disk : Disk) (file : String) : Except Error Tree :=
  match disk.read file with
  | .ok text => (Ini.read text).mapError (·.toError file)
  | .error .notFound => .ok (Tree.empty Ini.separator)
  | .error reason => .error (.io reason.message)

def load (disk : Disk) (file : String) : Except Error IniFile :=
  if hasSuffix file then
    (readTree disk file).map fun tree => { file, held := { tree } }
  else .error (.unsupportedFileType file)

/-- Refuse what the lines of a file cannot carry. -/
def check (path : List String) (value : String) : Except Error Unit :=
  match path.find? (!Ini.storableName ·) with
  | some name => .error (.invalidPath s!"'{name}' cannot be stored as an INI key")
  | none =>
    if Ini.storableValue value then .ok ()
    else
      .error (.invalidPath "INI values cannot span lines or carry surrounding whitespace")

/-- Set the value at a path. It is set in a copy of the tree, which takes the place of the tree once
it is written. -/
def assign (store : IniFile) (disk : Disk) (path value : String) :
    Change Error (IniFile × Disk) :=
  match check (store.held.scope.resolve path) value with
  | .error error => ⟨.error error, store, disk⟩
  | .ok _ =>
    match store.held.put path value with
    | .error error => ⟨.error error, store, disk⟩
    | .ok copy =>
      match disk.write store.file (Ini.render copy.tree) with
      | .error reason => ⟨.error (.io reason.message), store, disk⟩
      | .ok written => ⟨.ok (), { store with held := copy }, written⟩

/-- The store and the disk after setting the value at a path. -/
def put (store : IniFile) (disk : Disk) (path value : String) :
    Except Error (IniFile × Disk) :=
  (store.assign disk path value).committed

end IniFile

end ConfigStore
