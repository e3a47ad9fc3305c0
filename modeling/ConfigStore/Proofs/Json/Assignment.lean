import ConfigStore.Json.Place
import ConfigStore.Proofs.Outcome

/-!
# Strings set in documents

What is left when a string is set in place and no obstacle is met.

* `Json.overwrite` is the value with the string at the end of a path set. What is missing counts as
  null.
* `Json.set_eq_overwrite`: this is what setting a string in a copy gives.
-/

namespace ConfigStore.Json

/-- Make the place at the end of the path a string with this text. -/
def overwrite (text : String) : List String → Json → Except Obstacle Json
  | [], array _ => .error (.containerAt [])
  | [], object _ => .error (.containerAt [])
  | [], _ => .ok (string text)
  | name :: rest, null =>
    match overwrite text rest null with
    | .ok child => .ok (object [(name, child)])
    | .error obstacle => .error (obstacle.under name)
  | name :: rest, object members =>
    match overwrite text rest ((members.lookup name).getD null) with
    | .ok child => .ok (object (Entries.insert name child members))
    | .error obstacle => .error (obstacle.under name)
  | name :: rest, array items =>
    match position? name items.length with
    | none => .error (.notAPosition name items.length)
    | some position =>
      match overwrite text rest (items[position]?.getD null) with
      | .ok child => .ok (array (setItem items position child))
      | .error obstacle => .error (obstacle.under name)
  | _ :: _, bool _ => .error (.scalarAt [])
  | _ :: _, number _ => .error (.scalarAt [])
  | _ :: _, string _ => .error (.scalarAt [])

/-- A change below a value succeeds if and only if the change of the value does. -/
theorem committed_below (below : Change Obstacle Json) (name : String) (around : Json → Json) :
    (⟨below.outcome.mapError (·.under name), around below.state⟩ : Change Obstacle Json).committed =
      match below.committed with
      | .ok child => .ok (around child)
      | .error obstacle => .error (obstacle.under name) := by
  obtain ⟨outcome, state⟩ := below
  cases outcome <;> rfl

theorem verdict_below (below : Except Obstacle Json) (name : String) (around : Json → Json) :
    (match below with
      | .ok child => .ok (around child)
      | .error obstacle => .error (obstacle.under name) : Except Obstacle Json).verdict =
      below.verdict.mapError (·.under name) := by
  cases below <;> rfl

/-- What was made where a value is missing goes on like null. -/
theorem overwrite_fresh (text : String) (path : List String) :
    overwrite text path (fresh path) = overwrite text path null := by
  cases path with
  | nil => rfl
  | cons name rest =>
    rw [fresh, empty, overwrite, overwrite, List.lookup_nil, Option.getD_none]
    rfl

theorem overwrite_getD_fresh (text : String) (path : List String) (found : Option Json) :
    overwrite text path (found.getD (fresh path)) = overwrite text path (found.getD null) := by
  cases found with
  | none => exact overwrite_fresh text path
  | some value => rfl

theorem committed_descend (text : String) (path : List String) (value : Json) :
    (descend text path value).committed = overwrite text path value := by
  induction path generalizing value with
  | nil => cases value <;> rfl
  | cons name rest ih =>
    cases value with
    | null =>
      rw [overwrite, ← overwrite_fresh, ← ih]
      exact committed_below _ name fun child => object [(name, child)]
    | object members =>
      rw [overwrite, ← overwrite_getD_fresh, ← ih]
      exact committed_below _ name fun child => object (Entries.insert name child members)
    | array items =>
      rw [overwrite, descend]
      cases position? name items.length with
      | none => rfl
      | some position =>
        dsimp only
        rw [← overwrite_getD_fresh, ← ih]
        exact committed_below _ name fun child => array (setItem items position child)
    | bool | number | string => rfl

theorem set_eq_overwrite (document : Json) (path : List String) (text : String) :
    document.set path text =
      if path = [] then .error .emptyPath else overwrite text path document := by
  rw [set, assign]
  split
  · rfl
  · exact committed_descend text path document

end ConfigStore.Json
