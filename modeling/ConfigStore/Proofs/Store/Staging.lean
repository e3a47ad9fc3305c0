import ConfigStore.Ini.File
import ConfigStore.Json.File
import ConfigStore.Proofs.Outcome

/-!
# Puts that are staged

A store in a file changes a copy, writes the copy, and only then takes it for its own.

* `IniFile.atomic_assign` and `JsonFile.atomic_assign`: a put that fails leaves the store and the
  disk as they were.
* `IniFile.put_eq` and `JsonFile.put_eq`: the steps of a put for those who give up on a failure.
-/

namespace ConfigStore

variable (disk : Disk) (path value : String)

namespace IniFile

variable (store : IniFile)

theorem atomic_assign : (store.assign disk path value).Atomic (store, disk) := by
  intro error hError
  rw [assign] at hError ⊢
  cases hCheck : check (store.held.scope.resolve path) value with
  | error reason => rfl
  | ok checked =>
    cases hPut : store.held.put path value with
    | error reason => rfl
    | ok copy =>
      cases hWrite : disk.write store.file (Ini.render copy.tree) with
      | error reason => simp only [hWrite]
      | ok written =>
        simp only [hCheck, hPut, hWrite] at hError
        cases hError

theorem put_eq :
    store.put disk path value = (do
      check (store.held.scope.resolve path) value
      let held ← store.held.put path value
      let disk ← (disk.write store.file (Ini.render held.tree)).mapError (.io ·.message)
      return ({ store with held }, disk)) := by
  rw [put, assign, Change.committed]
  cases check (store.held.scope.resolve path) value with
  | error reason => rfl
  | ok checked =>
    cases store.held.put path value with
    | error reason => rfl
    | ok copy =>
      dsimp only [Except.ok_bind]
      cases disk.write store.file (Ini.render copy.tree) <;> rfl

end IniFile

namespace JsonFile

variable (store : JsonFile)

theorem atomic_assign : (store.assign disk path value).Atomic (store, disk) := by
  intro error hError
  rw [assign] at hError ⊢
  cases hSet : store.document.set (store.scope.resolve path) value with
  | error obstacle => rfl
  | ok copy =>
    cases hWrite : disk.write store.file copy.pretty with
    | error reason => simp only [hWrite]
    | ok written =>
      simp only [hSet, hWrite] at hError
      cases hError

theorem put_eq :
    store.put disk path value = (do
      let document ← (store.document.set (store.scope.resolve path) value).mapError
        (·.toError (store.scope.resolve path))
      let disk ← (disk.write store.file document.pretty).mapError (.io ·.message)
      return ({ store with document }, disk)) := by
  rw [put, assign, Change.committed]
  cases store.document.set (store.scope.resolve path) value with
  | error obstacle => rfl
  | ok copy =>
    dsimp only [Except.ok_mapError, Except.ok_bind]
    cases disk.write store.file copy.pretty <;> rfl

end JsonFile

end ConfigStore
