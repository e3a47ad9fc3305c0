import ConfigStore.Consul.Client
import ConfigStore.Ini.File
import ConfigStore.Json.File

/-!
# Stores

A store keeps texts under paths. There are four kinds: one in memory, one in an INI file, one
in a document, and one with an agent.

* `Store.assign` and `Store.get` write and read one value; `Store.put` writes one for those who
  give up on a failure.
* `Store.subtree` and `Store.flatten` read what lies at and below a path, as a tree and as a
  map.
* `World` is what lies outside of stores: the disk, an agent, and the environment variables.
-/

namespace ConfigStore

/-- The surroundings of stores. -/
structure World where
  disk : Disk := {}
  agent : Consul.Agent := .unreachable
  «variables» : List (String × String) := []

inductive Store where
  | memory (held : ScopedTree)
  | ini (store : IniFile)
  | json (store : JsonFile)
  | consul (client : ConsulClient)

namespace Store

/-! ## Scope -/

def scope : Store → Scope
  | memory held => held.scope
  | ini store => store.held.scope
  | json store => store.scope
  | consul client => client.scope

/-- The same store with another scope. -/
def withScope (store : Store) (scope : Scope) : Store :=
  match store with
  | memory held => memory { held with scope }
  | ini store => ini { store with held := { store.held with scope } }
  | json store => json { store with scope }
  | consul client => consul { client with scope }

/-- Take later paths below a prefix. -/
def setRoot (store : Store) (path : String) : Store :=
  store.withScope (store.scope.setRoot path)

def setSeparator (store : Store) (separator : Char) : Store :=
  store.withScope (store.scope.setSeparator separator)

def resetSeparator (store : Store) : Store :=
  store.withScope store.scope.resetSeparator

@[simp] theorem scope_withScope (store : Store) (scope : Scope) :
    (store.withScope scope).scope = scope := by
  cases store <;> rfl

/-! ## Values -/

/-- Set the value at a path in place. Stores in files also change the disk. -/
def assign (store : Store) (world : World) (path value : String) :
    Change Error (Store × World) :=
  match store with
  | memory held =>
    let change := held.assign path value
    ⟨change.outcome, memory change.state, world⟩
  | ini store =>
    let change := store.assign world.disk path value
    ⟨change.outcome, ini change.state.1, { world with disk := change.state.2 }⟩
  | json store =>
    let change := store.assign world.disk path value
    ⟨change.outcome, json change.state.1, { world with disk := change.state.2 }⟩
  | consul client => .staged (consul client, world) do
    (client.put path value).run world.agent
    return (consul client, world)

/-- The store and the world after setting the value at a path. -/
def put (store : Store) (world : World) (path value : String) : Except Error (Store × World) :=
  (store.assign world path value).committed

/-- The value at a path, if there is one. -/
def get (store : Store) (world : World) (path : String) : Except Error (Option String) :=
  match store with
  | memory held => .ok (held.get? path)
  | ini store => .ok (store.held.get? path)
  | json store => .ok (store.get? path)
  | consul client => (client.get path).run world.agent

/-- Whether there is a value at a path. -/
def has (store : Store) (world : World) (path : String) : Except Error Bool :=
  (store.get world path).map Option.isSome

/-- The values at and below a path as a tree, rooted at the prefix. -/
def subtree (store : Store) (world : World) (path : String) : Except Error Tree :=
  match store with
  | memory held => .ok (held.subtree path)
  | ini store => .ok (store.held.subtree path)
  | json store => store.subtree path
  | consul client => client.subtree world.agent path

/-- The values at and below a path under their joined paths, without the prefix. -/
def flatten (store : Store) (world : World) (path : String) : Except Error (NameMap String) :=
  match store with
  | memory held => .ok (held.flatten path)
  | ini store => .ok (store.held.flatten path)
  | json store => (store.subtree path).map Tree.flatten
  | consul client => client.flatten world.agent path

end Store

end ConfigStore
