import ConfigStore.Decimal.Layout
import ConfigStore.Store.Basic

/-!
# Numbers in stores

Numbers are kept as texts. A text that is read as a number and writes none is an error.

* `Store.assignInt` and `Store.getInt` write and read integers of 64 bits, `Store.getInt32`
  reads one of 32 bits.
* `Store.assignDouble` and `Store.getDouble` write and read doubles.
-/

namespace ConfigStore.Store

/-- Read the text at a path as a value of a type that `target` names. -/
def convert {α : Type} (path target : String) (read : String → Option α) :
    Option String → Except Error (Option α)
  | none => .ok none
  | some text =>
    match read text with
    | some value => .ok (some value)
    | none => .error (.conversion path text target)

def assignInt (store : Store) (world : World) (path : String) (value : Int) :
    Change Error (Store × World) :=
  store.assign world path (Decimal.writeInt value)

def assignDouble (store : Store) (world : World) (path : String) (value : Double) :
    Change Error (Store × World) :=
  store.assign world path (Decimal.Layout.value.write value)

def getInt (store : Store) (world : World) (path : String) : Except Error (Option Int) := do
  convert path "integer" (Decimal.readInt? 64) (← store.get world path)

def getDouble (store : Store) (world : World) (path : String) :
    Except Error (Option Double) := do
  convert path "float" Decimal.readDouble? (← store.get world path)

/-- Keep an integer that has room in 32 bits. -/
def narrow (path : String) : Option Int → Except Error (Option Int)
  | none => .ok none
  | some value =>
    if Decimal.fitsBits 32 value then .ok (some value)
    else .error (.conversion path (Decimal.writeInt value) "32-bit integer")

def getInt32 (store : Store) (world : World) (path : String) : Except Error (Option Int) := do
  narrow path (← store.getInt world path)

end ConfigStore.Store
