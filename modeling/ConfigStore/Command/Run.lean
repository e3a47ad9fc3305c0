import ConfigStore.Command.Arguments
import ConfigStore.Registry

/-!
# Running commands

A command opens the stores it names and reads or writes them. What it changes in the world
stays changed even if it fails later on.

* `Arguments.run` runs a command. Its report holds the outcome, what is printed, and the lines
  of the log.
* `Report.within` is the report where there is room for so many printed bytes only.
* `Transcript.run` runs a tool from its arguments to its exit status.
-/

namespace ConfigStore

/-- How a command ends that does not fail. -/
inductive Outcome where
  | stored
  | printed
  /-- There was nothing to print. -/
  | nothingFound
  | copied (count : Nat)
deriving DecidableEq, Repr

/-- Why a command fails. -/
inductive Failure where
  | store (error : Error)
  | output (reason : String)
deriving DecidableEq, Repr

def Failure.message : Failure → String
  | store error => error.message
  | output reason => s!"failed to write output: {reason}"

structure Report where
  outcome : Except Failure Outcome
  /-- What is printed. -/
  output : String := ""
  log : List String := []

namespace Report

/-- The exit status. -/
def status (report : Report) : Nat :=
  match report.outcome with
  | .ok .nothingFound => 2
  | .ok _ => 0
  | .error _ => 1

def outputBytes (report : Report) : List UInt8 := Utf8.encode report.output.toList

/-- The outcome where there is room for so many printed bytes, and `reason` is why there is
no more. -/
def within (report : Report) (room : Nat) (reason : String) : Report :=
  if report.outputBytes.length ≤ room then report
  else { report with outcome := .error (.output reason) }

end Report

namespace Command

/-- What commands work on: the world, and the log with its last line first. -/
structure State where
  world : World
  log : List String := []

/-- Work that may fail, and that keeps what it has changed when it fails. -/
abbrev Work := ExceptT Error (StateM State)

def world : Work World := return (← getThe State).world

/-- Open the store at a URI. The log tells of every store whose scheme is known. -/
def openStore (uri : String) (separator : Char) : Work Store := do
  let (opener, location) ← Registry.standard.find uri
  let line := s!"opening a store of scheme '{location.scheme}'"
  modifyThe State fun state => { state with log := line :: state.log }
  let store ← opener location (← world)
  return store.setSeparator separator

/-- Set the value at a path. -/
def putValue (store : Store) (path value : String) : Work Store := do
  let (store, world) ← store.put (← world) path value
  modifyThe State fun state => { state with world }
  return store

/-- Set values one after the other, up to the first that cannot be set. -/
def putAll (store : Store) : List (String × String) → Work Unit
  | [] => return ()
  | (path, value) :: rest => do putAll (← putValue store path value) rest

/-- The line that is printed for a value. -/
def line (entry : String × String) : String := entry.1 ++ "=" ++ entry.2 ++ "\n"

/-- The URIs that a command names. -/
def uris : Command → List String
  | .put uri _ _ => [uri]
  | .get uri _ _ => [uri]
  | .copy source destination _ => [source, destination]

/-- The outcome of a command and what it prints. -/
def work (separator : Char) : Command → Work (Outcome × String)
  | .put uri path value => do
    let store ← openStore uri separator
    let _ ← putValue store path value
    return (.stored, "")
  | .get uri path true => do
    let store ← openStore uri separator
    let values ← store.flatten (← world) path
    if values.isEmpty then return (.nothingFound, "")
    return (.printed, String.join (values.entries.map line))
  | .get uri path false => do
    let store ← openStore uri separator
    match ← store.get (← world) path with
    | some value => return (.printed, value ++ "\n")
    | none => return (.nothingFound, "")
  | .copy source destination path => do
    let source ← openStore source separator
    let destination ← openStore destination separator
    let values ← source.flatten (← world) path
    putAll destination values.entries
    return (.copied values.size, "")

end Command

/-- Run a command in a world. -/
def Arguments.run (arguments : Arguments) (world : World) : Report × World :=
  let (result, state) := ((arguments.command.work arguments.separator).run).run { world }
  let log := state.log.reverse
  match result with
  | .ok (outcome, output) => ({ outcome := .ok outcome, output, log }, state.world)
  | .error error => ({ outcome := .error (.store error), log }, state.world)

/-! ## From arguments to an exit status -/

/-- What is seen of a tool from outside. -/
structure Transcript where
  status : Nat
  output : String := ""
  errors : String := ""
deriving DecidableEq, Repr

namespace Tool

def name : Tool → String
  | put => "configuration-put"
  | get => "configuration-get"
  | copy => "configuration-copy"

/-- The version of the tools. -/
def version : String := "0.1.0"

def usage : Tool → String
  | put => "Usage: configuration-put [OPTIONS] <URI> <PATH> <VALUE>"
  | get => "Usage: configuration-get [OPTIONS] <URI> <PATH>"
  | copy => "Usage: configuration-copy [OPTIONS] <SOURCE> <DESTINATION>"

end Tool

def UsageFault.message : UsageFault → String
  | help => "help was asked for"
  | version => "the version was asked for"
  | missingOperand => "a required argument is missing"
  | unknown => "an argument was not expected"
  | repeated => "an argument was given twice"
  | missingValue => "an option has no value"
  | badValue => "the separator has to be one character"
  | needlessValue => "a flag has a value"

namespace Transcript

/-- The transcript of a tool that refuses its arguments. -/
def ofUsageFault (tool : Tool) (fault : UsageFault) : Transcript :=
  match fault with
  | .help => { status := fault.status, output := tool.usage ++ "\n" }
  | .version => { status := fault.status, output := s!"{tool.name} {Tool.version}\n" }
  | _ => { status := fault.status, errors := s!"error: {fault.message}\n\n{tool.usage}\n" }

/-- The transcript of a report. The log is written only where it is asked for. -/
def ofReport (verbose : Bool) (report : Report) : Transcript :=
  let log := if verbose then String.join (report.log.map (· ++ "\n")) else ""
  let error := match report.outcome with
    | .ok _ => ""
    | .error failure => s!"Error: {failure.message}\n"
  { status := report.status, output := report.output, errors := log ++ error }

/-- Run a tool on its arguments in a world. -/
def run (tool : Tool) (arguments : List String) (world : World) : Transcript × World :=
  match Arguments.read tool world.«variables» arguments with
  | .error fault => (ofUsageFault tool fault, world)
  | .ok arguments =>
    let (report, world) := arguments.run world
    (ofReport arguments.verbose report, world)

end Transcript

end ConfigStore
