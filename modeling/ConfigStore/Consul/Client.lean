import ConfigStore.Consul.Address
import ConfigStore.Consul.Agent
import ConfigStore.Consul.Listing
import ConfigStore.Tree.Basic

/-!
# Agents as stores

A store that asks an agent for every value. Each operation is one request at most.

* `ConsulClient.put` and `ConsulClient.get` write and read one value.
* `ConsulClient.list` reads the values at and below a path; `ConsulClient.subtree` and
  `ConsulClient.flatten` make a tree and a map of them.
-/

namespace ConfigStore

structure ConsulClient where
  address : Consul.Address
  token : Option String
  scope : Scope := {}

namespace ConsulClient

open Consul

/-- The error for a response with a status that no operation expects. -/
def unexpected (url : Url) (response : Response) : Error :=
  let body := Text.trim response.text
  .backend s!"Consul returned {response.statusText} for {url.text}: {body}"

/-- Set the value at a path. The agent refuses a value by answering `false`. -/
def put (client : ConsulClient) (path value : String) : Exchange Unit :=
  let key := client.scope.resolve path
  if key = [] then .settled (.error (.invalidPath "cannot put a value at an empty key"))
  else
    let url := client.address.keyUrl key
    .send { method := .put, url, token := client.token, body := value } fun response =>
      if !response.isSuccess then .error (unexpected url response)
      else if Text.trim response.text = "false" then
        .error (.backend s!"Consul rejected the write to {url.text}")
      else .ok ()

/-- The value at a path. -/
def get (client : ConsulClient) (path : String) : Exchange (Option String) :=
  let key := client.scope.resolve path
  if key = [] then .settled (.ok none)
  else
    let url := { client.address.keyUrl key with query := some "raw".toList }
    .send { method := .get, url, token := client.token } fun response =>
      if response.isNotFound then .ok none
      else if !response.isSuccess then .error (unexpected url response)
      else .ok (some response.text)

/-- The values at and below a path in a listing, with their paths as seen from the prefix. -/
def readListing (client : ConsulClient) (path : String) (records : List Record) :
    Except Error (List (List String × String)) :=
  (records.filterMap (Record.select? client.scope (client.scope.resolve path))).mapM
    Selected.decode

/-- The values at and below a path, with their paths as seen from the prefix. -/
def list (client : ConsulClient) (path : String) : Exchange (List (List String × String)) :=
  let key := client.scope.resolve path
  let url := { client.address.keyUrl key with query := some "recurse".toList }
  .send { method := .get, url, token := client.token } fun response =>
    if response.isNotFound then .ok []
    else if !response.isSuccess then .error (unexpected url response)
    else
      match Record.readAll? response.body with
      | some records => client.readListing path records
      | none =>
        .error (.backend s!"malformed listing from {url.text}: error decoding response body")

/-- The listed values that have a path of their own. -/
def placed (values : List (List String × String)) : List (List String × String) :=
  values.filter fun value => value.1 ≠ []

/-- The tree of listed values. -/
def treeOf (separator : Char) (values : List (List String × String)) : Except Error Tree :=
  (placed values).foldlM (fun tree value => tree.insert value.1 value.2) (Tree.empty separator)

/-- The map of listed values, where the last value of a key wins. -/
def mapOf (separator : Char) (values : List (List String × String)) : NameMap String :=
  NameMap.ofList ((placed values).map fun value => (Path.join separator value.1, value.2))

def subtree (client : ConsulClient) (agent : Agent) (path : String) : Except Error Tree := do
  treeOf client.scope.separator (← (client.list path).run agent)

def flatten (client : ConsulClient) (agent : Agent) (path : String) :
    Except Error (NameMap String) := do
  return mapOf client.scope.separator (← (client.list path).run agent)

end ConsulClient

end ConfigStore
