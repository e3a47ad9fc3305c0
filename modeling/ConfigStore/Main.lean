import ConfigStore.Command.Run

/-!
# The tools on the command line

The first argument names the tool, the others are its arguments. The files that the tool may
touch are read into a disk before it runs, and those it has changed are written back.

* `Shell.load` and `Shell.save` go between the disk of a world and the files outside.
* `main` runs a tool.
-/

namespace ConfigStore.Shell

/-- The files that a command may touch. -/
def paths (command : Command) : List String :=
  command.uris.filterMap fun uri =>
    match Location.read uri with
    | .ok location =>
      if location.scheme = "file" ∨ location.scheme = "json" then some location.documentPath
      else none
    | .error _ => none

/-- What a path leads to outside. -/
inductive Found where
  | entry (entry : DiskEntry)
  | throughFile
  | nothing

def look (path : String) : IO Found := do
  try
    let bytes ← IO.FS.readBinFile path
    return .entry (.ofBytes bytes.toList)
  catch error =>
    match error with
    | .inappropriateType _ code _ =>
      return if code = 21 then .entry .directory else .throughFile
    | _ => return .nothing

/-- Read the file at a path into a disk. Where there is none, the directory that it would be
in is read. -/
def load (disk : Disk) (path : String) : IO Disk := do
  let place := disk.placeOf path
  match ← look path with
  | .entry entry => return disk.install place entry
  | .throughFile => return disk.install place.dropLast (.text "")
  | .nothing =>
    match ← look ("/" ++ Path.join '/' place.dropLast) with
    | .entry .directory => return disk.install place.dropLast .directory
    | _ => return disk

/-- Write the file at a path, if it has changed. -/
def save (before after : Disk) (path : String) : IO Unit := do
  let place := before.placeOf path
  match after.held? place with
  | some (.text content) =>
    if before.held? place ≠ some (.text content) then IO.FS.writeFile path content
  | _ => return

def environment : IO (List (String × String)) := do
  let names := [Opener.tokenVariable, Arguments.separatorVariable]
  let found ← names.mapM fun name => return (name, ← IO.getEnv name)
  return found.filterMap fun (name, value) => value.map fun value => (name, value)

/-- The world as the tool finds it. -/
def world (paths : List String) : IO World := do
  let directory ← IO.currentDir
  let workingDirectory := Path.split '/' directory.toString
  let disk : Disk := { workingDirectory }
  let disk ← paths.foldlM load (disk.install workingDirectory .directory)
  return { disk, «variables» := ← environment }

def tool? : String → Option Tool
  | "put" => some .put
  | "get" => some .get
  | "copy" => some .copy
  | _ => none

/-- Run a tool and give its exit status. -/
def run (tool : Tool) (arguments : List String) : IO UInt32 := do
  let named := match Arguments.read tool (← environment) arguments with
    | .ok arguments => paths arguments.command
    | .error _ => []
  let before ← world named
  let (transcript, after) := Transcript.run tool arguments before
  for path in named do save before.disk after.disk path
  (← IO.getStdout).putStr transcript.output
  (← IO.getStderr).putStr transcript.errors
  return UInt32.ofNat transcript.status

end ConfigStore.Shell

def main (arguments : List String) : IO UInt32 := do
  match arguments with
  | [] =>
    (← IO.getStderr).putStrLn "error: no tool is named; there are put, get and copy"
    return 2
  | name :: rest =>
    match ConfigStore.Shell.tool? name with
    | some tool => ConfigStore.Shell.run tool rest
    | none =>
      (← IO.getStderr).putStrLn s!"error: there is no tool '{name}'"
      return 2
