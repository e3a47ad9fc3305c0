import ConfigStore.Error
import ConfigStore.Path
import ConfigStore.Text.Utf8

/-!
# Disks

A disk holds files and directories by place, that is, by their names counted from the top. A
path that does not start with a slash is taken from the working directory.

* `Disk.read` and `Disk.write` read and write the text of a file by its path, or say why they
  cannot.
* `Disk.held?_put_self` and `Disk.held?_put_of_ne`: an entry put at a place is found there,
  and no other place is touched.
* `Disk.install` puts an entry at a place together with the directories above it.
-/

namespace ConfigStore

/-- What a place of a disk holds. Bytes that are UTF-8 are always held as text. -/
inductive DiskEntry where
  | directory
  | text (content : String)
  | bytes (content : List UInt8)
deriving DecidableEq, Repr

namespace DiskEntry

/-- A file with the given bytes. -/
def ofBytes (content : List UInt8) : DiskEntry :=
  match Utf8.decode content with
  | .ok content => text content
  | .error _ => bytes content

end DiskEntry

structure Disk where
  entries : List (List String × DiskEntry) := []
  workingDirectory : List String := []
  /-- The reason for which nothing can be written, if there is one. -/
  refusal : Option IoError := none
deriving DecidableEq, Repr

namespace Disk

/-! ## Places -/

/-- What a place holds. The top is always a directory. -/
def held? (disk : Disk) (place : List String) : Option DiskEntry :=
  if place = [] then some .directory else disk.entries.lookup place

/-- Put an entry at a place in place of what was there. -/
def put (disk : Disk) (place : List String) (entry : DiskEntry) : Disk :=
  { disk with entries := (place, entry) :: disk.entries.filter (·.1 ≠ place) }

/-- Take away what is at a place. -/
def erase (disk : Disk) (place : List String) : Disk :=
  { disk with entries := disk.entries.filter (·.1 ≠ place) }

/-- The places above a place, from the top down. -/
def above (place : List String) : List (List String) :=
  (List.range place.length).map place.take

/-- Put an entry at a place, and directories at the places above it that hold nothing. -/
def install (disk : Disk) (place : List String) (entry : DiskEntry) : Disk :=
  let withDirectories := (above place).foldl
    (fun disk upper => if (disk.held? upper).isSome then disk else disk.put upper .directory)
    disk
  withDirectories.put place entry

/-- The files below a place, by their names counted from there. -/
def filesBelow (disk : Disk) (place : List String) : List (List String × DiskEntry) :=
  disk.entries.filterMap fun (held, entry) =>
    match entry, Path.below? place held with
    | .directory, _ => none
    | _, none => none
    | entry, some names => some (names, entry)

theorem held?_put_self {disk : Disk} {place : List String} (h : place ≠ [])
    (entry : DiskEntry) : (disk.put place entry).held? place = some entry := by
  simp [held?, put, h]

theorem lookup_filter_ne {entries : List (List String × DiskEntry)} {place other : List String}
    (h : other ≠ place) :
    (entries.filter (·.1 ≠ place)).lookup other = entries.lookup other := by
  induction entries with
  | nil => rfl
  | cons entry rest ih =>
    by_cases hPlace : entry.1 = place
    · have hOther : (other == entry.1) = false := by simpa [hPlace] using h
      rw [List.filter_cons_of_neg (by simpa using hPlace), ih, List.lookup_cons, hOther]
    · rw [List.filter_cons_of_pos (by simpa using hPlace), List.lookup_cons,
        List.lookup_cons, ih]

theorem held?_put_of_ne {disk : Disk} {place other : List String} (h : other ≠ place)
    (entry : DiskEntry) : (disk.put place entry).held? other = disk.held? other := by
  have hOther : (other == place) = false := beq_eq_false_iff_ne.mpr h
  rw [held?, held?, put]
  split
  · rfl
  · simp only [List.lookup_cons, hOther]
    exact lookup_filter_ne h

/-! ## Paths -/

/-- Follow names down from a place. Every place that leads on has to be a directory; the last
one may hold nothing. -/
def follow (disk : Disk) (place : List String) : List String → Except IoError (List String)
  | [] => .ok place
  | name :: rest =>
    match disk.held? place with
    | none => .error .notFound
    | some .directory =>
      if name = "." then follow disk place rest
      else if name = ".." then follow disk place.dropLast rest
      else if 255 < name.utf8ByteSize then .error .nameTooLong
      else follow disk (place ++ [name]) rest
    | some _ => .error .notADirectory

/-- The place that a path leads to. -/
def locate (disk : Disk) (path : String) : Except IoError (List String) :=
  if path.toList.contains '\x00' then .error .nulByte
  else if path = "" then .error .notFound
  else if 4096 ≤ path.utf8ByteSize then .error .nameTooLong
  else
    let start := if path.toList.head? = some '/' then [] else disk.workingDirectory
    follow disk start (Path.split '/' path)

/-- The place that a path leads to if every name on it is that of a directory. -/
def placeOf (disk : Disk) (path : String) : List String :=
  let start := if path.toList.head? = some '/' then [] else disk.workingDirectory
  (Path.split '/' path).foldl
    (fun place name =>
      if name = "." then place else if name = ".." then place.dropLast else place ++ [name])
    start

/-- Only directories have paths that end with a slash. -/
def endsWithSlash (path : String) : Bool := path.toList.getLast? = some '/'

/-- The text of the file at a path. -/
def read (disk : Disk) (path : String) : Except IoError String := do
  let place ← disk.locate path
  match disk.held? place with
  | none => throw .notFound
  | some .directory => throw .isADirectory
  | some (.text content) => if endsWithSlash path then throw .notADirectory else return content
  | some (.bytes _) => throw (if endsWithSlash path then .notADirectory else .notUtf8)

/-- Make the text the whole content of the file at a path. The directory that the file is in
has to be there, the file need not. -/
def write (disk : Disk) (path content : String) : Except IoError Disk := do
  let place ← disk.locate path
  if endsWithSlash path ∨ disk.held? place = some .directory then throw .isADirectory
  match disk.refusal with
  | some reason => throw reason
  | none => return disk.put place (.text content)

end Disk

end ConfigStore
