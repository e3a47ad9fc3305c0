import ConfigStore.Decimal.Layout
import ConfigStore.NameMap

/-!
# Documents

The values of a document: scalars, arrays and objects, where the members of an object are in
name order.

* `Json.scalarText?` is the text as which a string, a number or a truth value is read.
* `Json.decEq` decides equality.
-/

namespace ConfigStore

/-- A number of a document. Integers are kept apart while they fit into 64 bits. -/
inductive Json.Number where
  | integer (value : Int)
  | double (value : Double)
deriving DecidableEq, Repr

inductive Json where
  | null
  | bool (value : Bool)
  | number (value : Json.Number)
  | string (value : String)
  | array (items : List Json)
  | object (members : List (String × Json))
deriving Inhabited, Repr

namespace Json

mutual

protected def decEq : (a b : Json) → Decidable (a = b)
  | null, null => isTrue rfl
  | bool a, bool b => decidable_of_iff (a = b) (by simp)
  | number a, number b => decidable_of_iff (a = b) (by simp)
  | string a, string b => decidable_of_iff (a = b) (by simp)
  | array a, array b =>
    match Json.decEqItems a b with
    | isTrue h => isTrue (by simp [h])
    | isFalse h => isFalse (by simp [h])
  | object a, object b =>
    match Json.decEqMembers a b with
    | isTrue h => isTrue (by simp [h])
    | isFalse h => isFalse (by simp [h])
  | null, bool _ | null, number _ | null, string _ | null, array _ | null, object _
  | bool _, null | bool _, number _ | bool _, string _ | bool _, array _ | bool _, object _
  | number _, null | number _, bool _ | number _, string _ | number _, array _
  | number _, object _ | string _, null | string _, bool _ | string _, number _
  | string _, array _ | string _, object _ | array _, null | array _, bool _
  | array _, number _ | array _, string _ | array _, object _ | object _, null
  | object _, bool _ | object _, number _ | object _, string _ | object _, array _ =>
    isFalse (by simp)

protected def decEqItems : (a b : List Json) → Decidable (a = b)
  | [], [] => isTrue rfl
  | [], _ :: _ => isFalse (by simp)
  | _ :: _, [] => isFalse (by simp)
  | a :: as, b :: bs =>
    match Json.decEq a b, Json.decEqItems as bs with
    | isTrue h, isTrue hRest => isTrue (by simp [h, hRest])
    | isFalse h, _ => isFalse (by simp [h])
    | _, isFalse hRest => isFalse (by simp [hRest])

protected def decEqMembers : (a b : List (String × Json)) → Decidable (a = b)
  | [], [] => isTrue rfl
  | [], _ :: _ => isFalse (by simp)
  | _ :: _, [] => isFalse (by simp)
  | (m, a) :: as, (n, b) :: bs =>
    if hName : m = n then
      match Json.decEq a b, Json.decEqMembers as bs with
      | isTrue h, isTrue hRest => isTrue (by simp [hName, h, hRest])
      | isFalse h, _ => isFalse (by simp [h])
      | _, isFalse hRest => isFalse (by simp [hRest])
    else isFalse (by simp [hName])

end

instance : DecidableEq Json := Json.decEq

/-- A document without members. -/
def empty : Json := object []

/-- The text of a number. -/
def Number.text : Number → String
  | integer value => Decimal.writeInt value
  | double value => Decimal.Layout.document.write value

/-- The text as which a scalar is read. Null, arrays and objects are no scalars. -/
def scalarText? : Json → Option String
  | string value => some value
  | number value => some value.text
  | bool value => some (if value then "true" else "false")
  | null | array _ | object _ => none

end Json

end ConfigStore
