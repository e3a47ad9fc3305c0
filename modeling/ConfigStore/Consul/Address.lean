import ConfigStore.Error
import ConfigStore.Url.Parser

/-!
# Addresses of agents

An agent is addressed by a URL with a path, and each of its keys by a longer one.

* `Consul.Address.read` reads the URL of an agent.
* `Consul.Address.keyUrl` is the URL of a key: the segments `v1` and `kv` behind the path of
  the agent, and then those of the key.
-/

namespace ConfigStore.Consul

/-- The port on which an agent listens unless told otherwise. -/
def defaultPort : Nat := 8500

/-- The URL of an agent, to whose path segments can be added. -/
structure Address where
  url : Url
  isRooted : url.isRooted = true

namespace Address

def read (text : String) : Except Error Address :=
  match Url.read text with
  | .error fault => .error (.backend s!"invalid Consul address '{text}': {fault.message}")
  | .ok url =>
    if h : url.isRooted = true then .ok ⟨url, h⟩
    else .error (.backend s!"invalid Consul address '{url.text}'")

/-- The address of the agent at a host and port. -/
def ofHost (host : String) (port : Nat) : Except Error Address :=
  read s!"http://{host}:{port}/"

/-- The segments of the path of a URL. -/
def segments (url : Url) : List (List Char) :=
  match url.path with
  | .rooted segments => segments
  | .rootless _ => []

/-- What is put behind the path of the agent for a key. The top of all keys is an empty
segment. -/
def keySegments (key : List String) : List (List Char) :=
  "v1".toList :: "kv".toList :: if key = [] then [[]] else key.map String.toList

/-- The URL of a key. -/
def keyUrl (address : Address) (key : List String) : Url :=
  let base := Url.popEmptySegment (segments address.url)
  { address.url with
    path := .rooted ((keySegments key).foldl (Url.pushSegment address.url.special) base) }

end Address

end ConfigStore.Consul
