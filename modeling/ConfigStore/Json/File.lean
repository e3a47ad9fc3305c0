import ConfigStore.Disk
import ConfigStore.Json.Parser
import ConfigStore.Json.Place
import ConfigStore.Json.Printer
import ConfigStore.Tree.Walk

/-!
# Documents as stores

A store that holds the document of a file and writes the whole file on every put.

* `JsonFile.load` reads the file; a file that is not there holds an object without members.
* `JsonFile.assign` sets a string and writes the file; `JsonFile.put` is for those who give up on a
  failure.
* `JsonFile.subtree` is the tree of the scalars at and below a path.
-/

namespace ConfigStore

structure JsonFile where
  file : String
  scope : Scope := {}
  document : Json

namespace JsonFile

/-- The document that a file holds. -/
def readDocument (disk : Disk) (file : String) : Except Error Json :=
  match disk.read file with
  | .ok text => (Json.read text).mapError fun fault => .parse file (some fault.line) fault.message
  | .error .notFound => .ok Json.empty
  | .error reason => .error (.io reason.message)

def load (disk : Disk) (file : String) : Except Error JsonFile :=
  (readDocument disk file).map fun document => { file, document }

/-- Set the string at a path. It is set in a copy of the document, which takes the place of the
document once it is written. -/
def assign (store : JsonFile) (disk : Disk) (path value : String) :
    Change Error (JsonFile × Disk) :=
  let place := store.scope.resolve path
  match store.document.set place value with
  | .error obstacle => ⟨.error (obstacle.toError place), store, disk⟩
  | .ok copy =>
    match disk.write store.file copy.pretty with
    | .error reason => ⟨.error (.io reason.message), store, disk⟩
    | .ok written => ⟨.ok (), { store with document := copy }, written⟩

/-- The store and the disk after setting the string at a path. -/
def put (store : JsonFile) (disk : Disk) (path value : String) :
    Except Error (JsonFile × Disk) :=
  (store.assign disk path value).committed

/-- The text of the scalar at a path. -/
def get? (store : JsonFile) (path : String) : Option String :=
  (Json.get? (store.scope.resolve path) store.document).bind Json.scalarText?

/-- The scalars at and below a path, rooted at the prefix. -/
def subtree (store : JsonFile) (path : String) : Except Error Tree :=
  match Json.get? (store.scope.resolve path) store.document with
  | none => .ok (Tree.empty store.scope.separator)
  | some value => value.collect (store.scope.split path) store.scope.separator

end JsonFile

end ConfigStore
