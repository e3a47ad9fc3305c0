import ConfigStore.Error
import ConfigStore.Url.Parser

/-!
# Locations of stores

A store is named by a URI. Its scheme says of which kind the store is; host, port and path
say where it is. Host and path are percent-decoded, and the host keeps its letters as they
are written.

* `Location.read` reads a URI.
* `Location.writtenHost?` cuts the host out of the text of a URI.
* `Location.documentPath` takes host and path together as the path of a document.
-/

namespace ConfigStore

structure Location where
  scheme : String
  host : String
  port : Option Nat
  path : String
deriving DecidableEq, Repr

namespace Location

/-- The host between brackets, or up to the port. -/
def dropPort (text : List Char) : List Char :=
  if text.head? = some '[' then
    match Text.cutAt ']' text with
    | (_, none) => text
    | (address, some _) => address ++ [']']
  else (Text.cutAt ':' text).1

/-- The host as it is written in a URI whose scheme is followed by two slashes. -/
def writtenHost? (text : List Char) : Option (List Char) :=
  match Text.cutAt ':' text with
  | (_, some ('/' :: '/' :: rest)) =>
    let authority := rest.takeWhile fun c => c ≠ '/' && c ≠ '?' && c ≠ '#'
    let host := dropPort (Url.splitUser authority).2
    if host = [] then none else some host
  | _ => none

/-- A percent-decoded part of a URI, or the reason why its bytes are no text. -/
def decode (text : List Char) : Except String String :=
  (Utf8.decode (Percent.decode text)).mapError fun fault =>
    let part := String.ofList text
    s!"'{part}' is not valid UTF-8 once decoded: {fault.message}"

/-- The parts of a URI, or the reason why there are none. -/
def parts (uri : String) : Except String Location := do
  let url ← (Url.read uri).mapError (·.message)
  let host ← decode ((writtenHost? uri.toList).getD [])
  let path ← decode url.pathText
  return { scheme := url.scheme, host, port := url.port?, path }

def read (uri : String) : Except Error Location :=
  (parts uri).mapError (.illFormedUri uri)

/-- Host and path as one path, the host being its first segment. -/
def documentPath (location : Location) : String :=
  if location.host = "" then location.path else "/" ++ location.host ++ location.path

end Location

end ConfigStore
