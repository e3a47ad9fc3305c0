/-!
# Arguments of the tools

There are three tools: `put`, `get` and `copy`. Each takes a fixed number of operands, flags,
and options with a value, in any order. Behind `--` everything is an operand.

* `Arguments.read` reads the arguments of a tool, or says what is wrong with the first of them
  that cannot be accepted.
* `UsageFault.status` is the exit status for arguments that are refused.
-/

namespace ConfigStore

inductive Tool where
  | put
  | get
  | copy
deriving DecidableEq, Repr

inductive Flag where
  | verbose
  | recursive
deriving DecidableEq, Repr

/-- Options that take a value. -/
inductive Setting where
  | separator
  | path
deriving DecidableEq, Repr

/-- Why a tool does not run. Asking for help or for the version is among the reasons. -/
inductive UsageFault where
  | help
  | version
  | missingOperand
  | unknown
  /-- A flag or option occurs twice. -/
  | repeated
  /-- An option stands without a value. -/
  | missingValue
  /-- The separator is not one character. -/
  | badValue
  /-- A flag has a value. -/
  | needlessValue
deriving DecidableEq, Repr

def UsageFault.status : UsageFault → Nat
  | help | version => 0
  | _ => 2

namespace Tool

/-- How many operands a tool takes. -/
def arity : Tool → Nat
  | put => 3
  | get => 2
  | copy => 2

end Tool

namespace Arguments

/-- What a name behind dashes stands for. -/
inductive Name where
  | help
  | version
  | flag (flag : Flag)
  | setting (setting : Setting)
deriving DecidableEq, Repr

/-- The names that follow two dashes. -/
def longName? (tool : Tool) (name : String) : Option Name :=
  match name with
  | "help" => some .help
  | "version" => some .version
  | "verbose" => some (.flag .verbose)
  | "recursive" => if tool = .get then some (.flag .recursive) else none
  | "separator" => some (.setting .separator)
  | "path" => if tool = .copy then some (.setting .path) else none
  | _ => none

/-- The letters that follow one dash. -/
def shortName? (tool : Tool) (letter : Char) : Option Name :=
  match letter with
  | 'h' => some .help
  | 'V' => some .version
  | 'v' => some (.flag .verbose)
  | 'r' => if tool = .get then some (.flag .recursive) else none
  | _ => none

/-- What has been read. An option is pending until the next argument is accepted. -/
structure Progress where
  operands : List String := []
  flags : List Flag := []
  settings : List (Setting × String) := []
  pending : Option (Setting × Option String) := none
deriving DecidableEq, Repr

/-- The separator that a text stands for. -/
def separator? (text : String) : Option Char :=
  match text.toList with
  | [c] => some c
  | _ => none

namespace Progress

/-- Accept the pending option. -/
def settle (progress : Progress) : Except UsageFault Progress :=
  match progress.pending with
  | none => .ok progress
  | some (_, none) => .error .missingValue
  | some (setting, some value) =>
    if (progress.settings.lookup setting).isSome then .error .repeated
    else if setting = .separator ∧ separator? value = none then .error .badValue
    else
      .ok { progress with settings := (setting, value) :: progress.settings, pending := none }

/-- Accept a name that stands without a value. -/
def name (progress : Progress) (name : Name) : Except UsageFault Progress := do
  let progress ← progress.settle
  match name with
  | .help => throw .help
  | .version => throw .version
  | .flag flag =>
    if flag ∈ progress.flags then throw .repeated
    return { progress with flags := flag :: progress.flags }
  | .setting setting => return { progress with pending := some (setting, none) }

/-- Accept what follows two dashes. -/
def long (progress : Progress) (tool : Tool) (text : List Char) : Except UsageFault Progress :=
  let written := String.ofList (text.takeWhile (· ≠ '='))
  match longName? tool written, text.dropWhile (· ≠ '=') with
  | none, _ => .error .unknown
  | some named, [] => progress.name named
  | some (.setting setting), _ :: value => do
    let progress ← progress.settle
    settle { progress with pending := some (setting, some (String.ofList value)) }
  | some _, _ :: _ => .error .needlessValue

/-- Accept the letters that follow one dash. -/
def short (progress : Progress) (tool : Tool) : List Char → Except UsageFault Progress
  | [] => .ok progress
  | letter :: rest =>
    match shortName? tool letter with
    | none => .error .unknown
    | some named => do (← progress.name named).short tool rest

/-- Accept an operand. -/
def operand (progress : Progress) (tool : Tool) (text : String) : Except UsageFault Progress :=
  if tool.arity ≤ progress.operands.length then .error .unknown
  else do
    let progress ← progress.settle
    return { progress with operands := progress.operands ++ [text] }

/-- Accept an operand, or the value of a pending option. -/
def word (progress : Progress) (tool : Tool) (text : String) : Except UsageFault Progress :=
  match progress.pending with
  | some (setting, none) => .ok { progress with pending := some (setting, some text) }
  | _ => progress.operand tool text

/-- Accept arguments up to the end. -/
def readAll (progress : Progress) (tool : Tool) : List String → Except UsageFault Progress
  | [] => progress.settle
  | text :: rest => do
    match text.toList with
    | ['-', '-'] => (← rest.foldlM (operand · tool ·) progress).settle
    | '-' :: '-' :: long => (← progress.long tool long).readAll tool rest
    | '-' :: letter :: more => (← progress.short tool (letter :: more)).readAll tool rest
    | _ => (← progress.word tool text).readAll tool rest

end Progress

end Arguments

/-- What a tool is asked to do. -/
inductive Command where
  | put (uri path value : String)
  | get (uri path : String) (recursive : Bool)
  | copy (source destination path : String)
deriving DecidableEq, Repr

structure Arguments where
  command : Command
  separator : Char
  verbose : Bool
deriving DecidableEq, Repr

namespace Arguments

/-- The command that operands, flags and options describe. -/
def Progress.command? (progress : Progress) (tool : Tool) : Option Command :=
  match tool, progress.operands with
  | .put, [uri, path, value] => some (.put uri path value)
  | .get, [uri, path] => some (.get uri path (progress.flags.contains .recursive))
  | .copy, [source, destination] =>
    some (.copy source destination ((progress.settings.lookup .path).getD ""))
  | _, _ => none

/-- The environment variable that holds the separator where no option gives it. -/
def separatorVariable : String := "CONFIGURATION_SEPARATOR"

/-- Read the arguments of a tool. -/
def read (tool : Tool) (environment : List (String × String)) (arguments : List String) :
    Except UsageFault Arguments := do
  let progress ← ({} : Progress).readAll tool arguments
  let written := (progress.settings.lookup .separator).orElse fun _ =>
    environment.lookup separatorVariable
  let some separator := separator? (written.getD "/") | throw .badValue
  let some command := progress.command? tool | throw .missingOperand
  return { command, separator, verbose := progress.flags.contains .verbose }

end Arguments

end ConfigStore
