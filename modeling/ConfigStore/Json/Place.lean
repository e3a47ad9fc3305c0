import ConfigStore.Json.Value
import ConfigStore.Tree.Basic

/-!
# Places in a document

A path leads into a document through members by name and through items by position.

* `Json.get?` follows a path.
* `Json.assign` makes the place at the end of a path a string, and `Json.set` does so in a copy.
  Null and what is missing count as an object without members, and the position behind the last
  item as a missing item.
* `Json.scalars` lists the scalars with their paths, in the order of the document.
-/

namespace ConfigStore.Json

/-- The value at the end of a path. -/
def get? : List String → Json → Option Json
  | [], value => some value
  | name :: rest, object members => (members.lookup name).bind (get? rest)
  | name :: rest, array items =>
    (Decimal.readIndex? name).bind fun index => items[index]?.bind (get? rest)
  | _ :: _, _ => none

/-- Why no string can be set at a path. -/
inductive Obstacle where
  | emptyPath
  /-- A name that is no position of an array with so many items, nor the one behind them. -/
  | notAPosition (name : String) (length : Nat)
  /-- A scalar stands at a path that should lead on. -/
  | scalarAt (path : List String)
  /-- The path ends on an array or object. -/
  | containerAt (path : List String)
deriving DecidableEq, Repr

/-- The obstacle as seen from the parent of the value that met it. -/
def Obstacle.under (name : String) : Obstacle → Obstacle
  | emptyPath => emptyPath
  | notAPosition segment length => notAPosition segment length
  | scalarAt path => scalarAt (name :: path)
  | containerAt path => containerAt (name :: path)

/-- The error shown for an obstacle to setting the place at `path`. -/
def Obstacle.toError (path : List String) : Obstacle → Error
  | emptyPath => .invalidPath "cannot put a value at an empty path"
  | notAPosition name length =>
    let place := Path.join defaultSeparator path
    .invalidPath
      s!"'{name}' is not a valid index for an array of length {length} in '{place}'"
  | scalarAt above =>
    .pathConflict (Path.join defaultSeparator above) "a value exists where a branch is needed"
  | containerAt above =>
    .pathConflict (Path.join defaultSeparator above) "a branch exists where a value would be set"

/-- The position that a name stands for in an array that may grow by one item. -/
def position? (name : String) (length : Nat) : Option Nat :=
  (Decimal.readIndex? name).filter (· ≤ length)

/-- An array with the item at a position, or behind the last one, replaced. -/
def setItem (items : List Json) (position : Nat) (item : Json) : List Json :=
  if position < items.length then items.set position item else items ++ [item]

/-- What is made where a value is missing: an object where the path leads on. -/
def fresh : List String → Json
  | [] => null
  | _ :: _ => empty

/-- Follow a path, making what is missing, and make the place at its end a string with this text.
The value is changed on the way, so that an obstacle finds it as it is by then. -/
def descend (text : String) : List String → Json → Change Obstacle Json
  | [], array items => ⟨.error (.containerAt []), array items⟩
  | [], object members => ⟨.error (.containerAt []), object members⟩
  | [], _ => ⟨.ok (), string text⟩
  | name :: rest, null =>
    let below := descend text rest (fresh rest)
    ⟨below.outcome.mapError (·.under name), object [(name, below.state)]⟩
  | name :: rest, object members =>
    let below := descend text rest ((members.lookup name).getD (fresh rest))
    ⟨below.outcome.mapError (·.under name), object (Entries.insert name below.state members)⟩
  | name :: rest, array items =>
    match position? name items.length with
    | none => ⟨.error (.notAPosition name items.length), array items⟩
    | some position =>
      let below := descend text rest (items[position]?.getD (fresh rest))
      ⟨below.outcome.mapError (·.under name), array (setItem items position below.state)⟩
  | _ :: _, bool value => ⟨.error (.scalarAt []), bool value⟩
  | _ :: _, number value => ⟨.error (.scalarAt []), number value⟩
  | _ :: _, string value => ⟨.error (.scalarAt []), string value⟩

/-- Set the string at a path in place. -/
def assign (document : Json) (path : List String) (text : String) : Change Obstacle Json :=
  if path = [] then ⟨.error .emptyPath, document⟩ else descend text path document

/-- A copy with the string at a path set. -/
def set (document : Json) (path : List String) (text : String) : Except Obstacle Json :=
  (document.assign path text).committed

mutual

/-- The scalars at and below a value: their paths from there, and their texts. -/
def scalars : Json → List (List String × String)
  | null => []
  | bool value => [([], if value then "true" else "false")]
  | number value => [([], value.text)]
  | string value => [([], value)]
  | array items => scalarsOfItems 0 items
  | object members => scalarsOfMembers members

/-- The scalars of items, the first of which has the given position. -/
def scalarsOfItems (position : Nat) : List Json → List (List String × String)
  | [] => []
  | item :: rest =>
    (scalars item).map (fun scalar => (Decimal.writeNat position :: scalar.1, scalar.2)) ++
      scalarsOfItems (position + 1) rest

def scalarsOfMembers : List (String × Json) → List (List String × String)
  | [] => []
  | (name, value) :: rest =>
    (scalars value).map (fun scalar => (name :: scalar.1, scalar.2)) ++ scalarsOfMembers rest

end

/-- The tree of the scalars at and below a value, each under `above` and its own path. A
scalar without any path has no place in a tree. -/
def collect (value : Json) (above : List String) (separator : Char) : Except Error Tree :=
  ((value.scalars.map fun scalar => (above ++ scalar.1, scalar.2)).filter
    fun scalar => scalar.1 ≠ []).foldlM
      (fun tree scalar => tree.insert scalar.1 scalar.2) (Tree.empty separator)

end ConfigStore.Json
