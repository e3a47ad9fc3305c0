import ConfigStore.Location
import ConfigStore.Store.Basic
import ConfigStore.Text.Quoted

/-!
# Registries of stores

A registry says for each scheme of a URI how its stores are opened. Schemes are compared
without regard to the case of ASCII letters.

* `Registry.standard` knows the four kinds of stores.
* `Registry.find` gives the opener for a URI, `Registry.openStore` opens the store it names.
-/

namespace ConfigStore

/-- How the stores of a scheme are opened. -/
abbrev Opener := Location → World → Except Error Store

namespace Opener

def ini : Opener := fun location world =>
  (IniFile.load world.disk location.documentPath).map .ini

def json : Opener := fun location world =>
  (JsonFile.load world.disk location.documentPath).map .json

/-- A store in memory is new each time. -/
def memory : Opener := fun _ _ => .ok (.memory {})

/-- The environment variable that holds the access token for agents. -/
def tokenVariable : String := "CONSUL_HTTP_TOKEN"

/-- The access token, if one is set. -/
def token? (world : World) : Option String :=
  (world.«variables».lookup tokenVariable).filter (· ≠ "")

/-- The agent at the host and port of the location, which is the local one if none is given.
The path is the prefix. -/
def consul : Opener := fun location world => do
  let host := if location.host = "" then "localhost" else location.host
  let address ← Consul.Address.ofHost host (location.port.getD Consul.defaultPort)
  return .consul
    { address, token := token? world, scope := ({} : Scope).setRoot location.path }

/-- A kind of store that is known and cannot be used. -/
def disabled : Opener := fun location _ => .error (.disabled location.scheme)

end Opener

structure Registry where
  openers : NameMap Opener

namespace Registry

def empty : Registry := ⟨∅⟩

/-- The text as which a scheme is kept. -/
def key (scheme : String) : String := scheme.map Char.toLower

/-- Use an opener for a scheme, in place of any other. -/
def register (registry : Registry) (scheme : String) (opener : Opener) : Registry :=
  ⟨registry.openers.insert (key scheme) opener⟩

def standard : Registry :=
  (((empty.register "file" .ini).register "json" .json).register "consul" .consul).register
    "memory" .memory

def isRegistered (registry : Registry) (scheme : String) : Bool :=
  (registry.openers.get? (key scheme)).isSome

/-- The registered schemes in name order. -/
def schemes (registry : Registry) : List String := registry.openers.entries.map Prod.fst

/-- The registry as shown to a programmer. -/
def describe (registry : Registry) : String :=
  let schemes := ", ".intercalate (registry.schemes.map Text.Quoted.write)
  "ConfigurationFactory \x7b schemes: [" ++ schemes ++ "] \x7d"

/-- The opener for a URI, and what the URI says. -/
def find (registry : Registry) (uri : String) : Except Error (Opener × Location) := do
  let location ← Location.read uri
  match registry.openers.get? location.scheme with
  | some opener => return (opener, location)
  | none => throw (.unrecognizedScheme location.scheme)

/-- Open the store that a URI names. -/
def openStore (registry : Registry) (world : World) (uri : String) : Except Error Store := do
  let (opener, location) ← registry.find uri
  opener location world

end Registry

end ConfigStore
