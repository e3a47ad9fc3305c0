/-!
# Errors

The causes for which a store or a location is refused, and their wording.

* `IoError` holds the answers of a file system to a read or a write.
* `Error` holds every other cause; `Error.message` is the text shown for it.
-/

namespace ConfigStore

/-- Why a file could not be read or written. -/
inductive IoError where
  | notFound
  | notADirectory
  | isADirectory
  | nameTooLong
  | readOnly
  | nulByte
  | notUtf8
deriving DecidableEq, Repr

namespace IoError

def message : IoError → String
  | notFound => "No such file or directory (os error 2)"
  | notADirectory => "Not a directory (os error 20)"
  | isADirectory => "Is a directory (os error 21)"
  | nameTooLong => "File name too long (os error 36)"
  | readOnly => "Read-only file system (os error 30)"
  | nulByte => "file name contained an unexpected NUL byte"
  | notUtf8 => "stream did not contain valid UTF-8"

end IoError

inductive Error where
  /-- A location that names no store. -/
  | illFormedUri (uri reason : String)
  | unrecognizedScheme (scheme : String)
  | disabled (scheme : String)
  /-- A document that cannot be read, with the line at fault where there is one. -/
  | parse (document : String) (line : Option Nat) (reason : String)
  /-- A stored text that is not of the type asked for. -/
  | conversion (path value target : String)
  | pathConflict (path reason : String)
  | invalidPath (reason : String)
  | unsupportedFileType (file : String)
  | io (reason : String)
  | backend (reason : String)
deriving DecidableEq, Repr

namespace Error

def message : Error → String
  | illFormedUri uri reason => s!"Ill-formed URI '{uri}': {reason}"
  | unrecognizedScheme scheme => s!"Unrecognized backend '{scheme}'"
  | disabled scheme => s!"Back-end '{scheme}' not enabled"
  | parse document none reason => s!"Parse error in {document}: {reason}"
  | parse document (some line) reason => s!"Parse error in {document} line {line}: {reason}"
  | conversion path value target => s!"Cannot convert value '{value}' at '{path}' to {target}"
  | pathConflict path reason => s!"Path conflict at '{path}': {reason}"
  | invalidPath reason => s!"Invalid path: {reason}"
  | unsupportedFileType file => s!"Invalid type in file name '{file}'"
  | io reason => s!"I/O error: {reason}"
  | backend reason => s!"Backend error: {reason}"

end Error

end ConfigStore
