import ConfigStore.Store.Typed

/-!
# Runs of operations

What can be asked of a store, as data, so that runs of any length can be spoken of.

* `Session.perform` carries out one operation.
* `Session.run` carries out a list of operations and collects the answers.
-/

namespace ConfigStore

inductive Operation where
  | setRoot (path : String)
  | setSeparator (separator : Char)
  | resetSeparator
  | put (path value : String)
  | putInt (path : String) (value : Int)
  | putDouble (path : String) (value : Double)
  | get (path : String)
  | getInt (path : String)
  | getInt32 (path : String)
  | getDouble (path : String)
  | has (path : String)
  | subtree (path : String)
  | flatten (path : String)
deriving DecidableEq, Repr

inductive Answer where
  | done
  | text (value : Option String)
  | integer (value : Option Int)
  | double (value : Option Double)
  | truth (value : Bool)
  | tree (value : Tree)
  | map (value : NameMap String)
deriving DecidableEq

/-- A store and the world around it. -/
structure Session where
  store : Store
  world : World

namespace Session

/-- The answer to a write, and the session that it leaves. -/
def afterWrite (change : Change Error (Store × World)) : Except Error Answer × Session :=
  (change.outcome.map fun _ => .done, ⟨change.state.1, change.state.2⟩)

/-- Carry out one operation. -/
def perform (session : Session) : Operation → Except Error Answer × Session
  | .setRoot path => (.ok .done, { session with store := session.store.setRoot path })
  | .setSeparator c => (.ok .done, { session with store := session.store.setSeparator c })
  | .resetSeparator => (.ok .done, { session with store := session.store.resetSeparator })
  | .put path value => afterWrite (session.store.assign session.world path value)
  | .putInt path value => afterWrite (session.store.assignInt session.world path value)
  | .putDouble path value => afterWrite (session.store.assignDouble session.world path value)
  | .get path => ((session.store.get session.world path).map .text, session)
  | .getInt path => ((session.store.getInt session.world path).map .integer, session)
  | .getInt32 path => ((session.store.getInt32 session.world path).map .integer, session)
  | .getDouble path => ((session.store.getDouble session.world path).map .double, session)
  | .has path => ((session.store.has session.world path).map .truth, session)
  | .subtree path => ((session.store.subtree session.world path).map .tree, session)
  | .flatten path => ((session.store.flatten session.world path).map .map, session)

/-- Carry out operations one after the other. -/
def run (session : Session) : List Operation → List (Except Error Answer) × Session
  | [] => ([], session)
  | operation :: rest =>
    let (answer, next) := session.perform operation
    let (answers, last) := next.run rest
    (answer :: answers, last)

end Session

end ConfigStore
