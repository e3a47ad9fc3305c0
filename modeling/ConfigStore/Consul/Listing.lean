import ConfigStore.Error
import ConfigStore.Json.Raw
import ConfigStore.Path
import ConfigStore.Text.Base64

/-!
# Listings of keys

An agent lists every key whose text starts with that of a given key. A listing is an array of
records with a key and its value in base64.

* `Consul.Record.readAll?` reads a listing.
* `Consul.Record.select?` keeps the records at and below a path, as seen from the prefix.
* `Consul.Selected.decode` gives the value of a record that was kept.
-/

namespace ConfigStore.Consul

structure Record where
  key : String
  /-- The value in base64. Folders have none. -/
  value : Option String
deriving DecidableEq, Repr

/-- A record at or below a path: its segments as seen from the prefix, its key, and its value
in base64. -/
structure Selected where
  path : List String
  key : String
  encoded : String
deriving DecidableEq, Repr

namespace Record

/-- A value that may be null. -/
def readValue? : Json.Raw → Option (Option String)
  | .null => some none
  | value => value.text?.map some

/-- A member with its name read. -/
def named? (member : List Char × Json.Raw) : Option (String × Json.Raw) :=
  (Json.Raw.readText? member.1).map (·, member.2)

/-- What stands at a name, which no two members have. -/
def field? (name : String) (members : List (String × Json.Raw)) : Option (Option Json.Raw) :=
  match members.filter (·.1 = name) with
  | [] => some none
  | [(_, value)] => some (some value)
  | _ => none

/-- A record has a key, and a value unless that is left out. Members of other names are not read. -/
def ofMembers? (members : List (String × Json.Raw)) : Option Record := do
  let key ← field? "Key" members
  let value ← field? "Value" members
  return ⟨← (← key).text?, ← readValue? (value.getD .null)⟩

def ofRaw? : Json.Raw → Option Record
  | .object members => (members.mapM named?).bind ofMembers?
  | .array [key, value] => do return ⟨← key.text?, ← readValue? value⟩
  | _ => none

/-- The records of a listing. -/
def readAll? (body : List UInt8) : Option (List Record) :=
  match Json.Raw.read? body with
  | some (.array items) => items.mapM ofRaw?
  | _ => none

/-- The record as seen from the prefix of the scope, if it is a value at or below a path given
from the top. A key that ends with a slash is a folder. -/
def select? (scope : Scope) (path : List String) (record : Record) : Option Selected :=
  match record.value with
  | none => none
  | some encoded =>
    let full := Path.split defaultSeparator record.key
    if record.key.toList.getLast? = some defaultSeparator then none
    else if (Path.below? path full).isNone then none
    else (scope.relative? full).map fun relative => ⟨relative, record.key, encoded⟩

end Record

namespace Selected

/-- The path of a record and the text that its base64 stands for. -/
def decode (selected : Selected) : Except Error (List String × String) :=
  match Base64.decode (Utf8.encode selected.encoded.toList) with
  | .error fault =>
    .error (.backend s!"invalid base64 value for key '{selected.key}': {fault.message}")
  | .ok bytes =>
    match Utf8.decode bytes with
    | .error fault =>
      .error (.backend s!"non UTF-8 value for key '{selected.key}': {fault.message}")
    | .ok value => .ok (selected.path, value)

end Selected

end ConfigStore.Consul
