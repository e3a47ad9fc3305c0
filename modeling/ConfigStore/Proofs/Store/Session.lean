import ConfigStore.Proofs.Store.Staging
import ConfigStore.Proofs.Tree.Insertion
import ConfigStore.Store.Operation

/-!
# What operations do to a session

* `Store.atomic_assign`: a store is as it was, and so is the world, when an assignment fails.
* `Operation.written?` is the text that an operation writes, `Operation.rescope` the scope that
  it leaves.
* `Session.perform_cases`: a session only changes its scope, or by a put that succeeds.
* `Session.scope_perform`: the scope after an operation.
* `Session.run_induction`: what every operation preserves, every run preserves.
-/

namespace ConfigStore

/-! ## Assignments -/

theorem ScopedTree.atomic_assign (held : ScopedTree) (path value : String) :
    (held.assign path value).Atomic held := by
  intro error hError
  exact congrArg (fun tree => ({ held with tree } : ScopedTree))
    (held.tree.atomic_assign _ value error hError)

namespace Store

variable (world : World) (path value : String)

theorem put_memory (held : ScopedTree) :
    (memory held).put world path value =
      (held.put path value).map fun held => (memory held, world) := by
  rw [put, assign, ScopedTree.assign, ScopedTree.put, Tree.insert, Change.committed,
    Change.committed]
  cases (held.tree.assign (held.scope.resolve path) value).outcome <;> rfl

theorem put_ini (store : IniFile) :
    (ini store).put world path value =
      (store.put world.disk path value).map fun next =>
        (ini next.1, { world with disk := next.2 }) := by
  rw [put, assign, IniFile.put, Change.committed, Change.committed]
  cases (store.assign world.disk path value).outcome <;> rfl

theorem put_json (store : JsonFile) :
    (json store).put world path value =
      (store.put world.disk path value).map fun next =>
        (json next.1, { world with disk := next.2 }) := by
  rw [put, assign, JsonFile.put, Change.committed, Change.committed]
  cases (store.assign world.disk path value).outcome <;> rfl

theorem put_consul (client : ConsulClient) :
    (consul client).put world path value =
      ((client.put path value).run world.agent).map fun _ => (consul client, world) := by
  rw [put, assign, Change.committed_staged]
  cases (client.put path value).run world.agent <;> rfl

/-- An assignment that fails leaves the store and the world as they were. -/
theorem atomic_assign (store : Store) : (store.assign world path value).Atomic (store, world) := by
  cases store with
  | memory held =>
    intro error hError
    exact congrArg (fun held => (memory held, world))
      (held.atomic_assign path value error hError)
  | ini store =>
    intro error hError
    exact congrArg (fun state => (ini state.1, { world with disk := state.2 }))
      (store.atomic_assign world.disk path value error hError)
  | json store =>
    intro error hError
    exact congrArg (fun state => (json state.1, { world with disk := state.2 }))
      (store.atomic_assign world.disk path value error hError)
  | consul client => exact Change.atomic_staged _ _

end Store

/-! ## Operations -/

/-- The path and the text that an operation writes. -/
def Operation.written? : Operation → Option (String × String)
  | .put path value => some (path, value)
  | .putInt path value => some (path, Decimal.writeInt value)
  | .putDouble path value => some (path, Decimal.Layout.value.write value)
  | _ => none

/-- The scope after an operation. -/
def Operation.rescope (scope : Scope) : Operation → Scope
  | .setRoot path => scope.setRoot path
  | .setSeparator c => scope.setSeparator c
  | .resetSeparator => scope.resetSeparator
  | _ => scope

@[simp] theorem Store.withScope_scope (store : Store) : store.withScope store.scope = store := by
  cases store <;> rfl

theorem Operation.rescope_of_written {operation : Operation}
    (h : operation.written?.isSome = true) (scope : Scope) : operation.rescope scope = scope := by
  cases operation <;> first | rfl | cases h

/-- A put leaves the scope as it is. -/
theorem Store.scope_put {store : Store} {world : World} {path value : String}
    {next : Store × World} (h : store.put world path value = .ok next) :
    next.1.scope = store.scope := by
  cases store with
  | memory held =>
    rw [put_memory] at h
    obtain ⟨changed, hChanged, rfl⟩ := Except.map_eq_ok_iff.mp h
    exact ScopedTree.scope_put hChanged
  | ini store =>
    rw [put_ini] at h
    obtain ⟨changed, hChanged, rfl⟩ := Except.map_eq_ok_iff.mp h
    rw [IniFile.put_eq] at hChanged
    obtain ⟨-, -, hChanged⟩ := Except.bind_eq_ok_iff.mp hChanged
    obtain ⟨held, hHeld, hChanged⟩ := Except.bind_eq_ok_iff.mp hChanged
    obtain ⟨disk, -, hChanged⟩ := Except.bind_eq_ok_iff.mp hChanged
    cases hChanged
    exact ScopedTree.scope_put hHeld
  | json store =>
    rw [put_json] at h
    obtain ⟨changed, hChanged, rfl⟩ := Except.map_eq_ok_iff.mp h
    rw [JsonFile.put_eq] at hChanged
    obtain ⟨document, -, hChanged⟩ := Except.bind_eq_ok_iff.mp hChanged
    obtain ⟨disk, -, hChanged⟩ := Except.bind_eq_ok_iff.mp hChanged
    cases hChanged
    rfl
  | consul client =>
    rw [put_consul] at h
    obtain ⟨done, -, rfl⟩ := Except.map_eq_ok_iff.mp h
    rfl

namespace Session

/-- The answer to a put, and the session after it: the one before, if the put failed. -/
def afterPut (session : Session) :
    Except Error (Store × World) → Except Error Answer × Session
  | .ok (store, world) => (.ok .done, { store, world })
  | .error error => (.error error, session)

theorem afterWrite_staged (session : Session) (prepared : Except Error (Store × World)) :
    afterWrite (.staged (session.store, session.world) prepared) = session.afterPut prepared := by
  cases prepared <;> rfl

theorem perform_of_written {session : Session} {operation : Operation} {path value : String}
    (h : operation.written? = some (path, value)) :
    session.perform operation =
      session.afterPut (session.store.put session.world path value) := by
  have hAssign : session.perform operation =
      afterWrite (session.store.assign session.world path value) := by
    cases operation <;> cases h <;> rfl
  have hAtomic := Store.atomic_assign session.world path value session.store
  rw [hAssign, hAtomic.eq_staged, afterWrite_staged, Store.put]

/-- A put that is answered has written. -/
theorem put_eq_of_done {session after : Session} {path value : String}
    (h : session.perform (.put path value) = (.ok .done, after)) :
    ∃ next, session.store.put session.world path value = .ok next ∧ after = ⟨next.1, next.2⟩ := by
  rw [perform_of_written rfl] at h
  cases hPut : session.store.put session.world path value with
  | error error =>
    rw [hPut] at h
    cases h
  | ok next =>
    rw [hPut] at h
    cases h
    exact ⟨next, rfl, rfl⟩

theorem perform_of_not_written {session : Session} {operation : Operation}
    (h : operation.written? = none) :
    (session.perform operation).2 =
      { session with
        store := session.store.withScope (operation.rescope session.store.scope) } := by
  cases operation with
  | setRoot | setSeparator | resetSeparator => rfl
  | put | putInt | putDouble => cases h
  | get | getInt | getInt32 | getDouble | has | subtree | flatten =>
    exact congrArg (fun store => ({ session with store } : Session))
      (Store.withScope_scope session.store).symm

/-- An operation only changes the scope, unless it is a put that succeeds. -/
theorem perform_cases (session : Session) (operation : Operation) :
    (session.perform operation).2 =
        { session with
          store := session.store.withScope (operation.rescope session.store.scope) } ∨
      ∃ path value next, operation.written? = some (path, value) ∧
        session.store.put session.world path value = .ok next ∧
        (session.perform operation).2 = ⟨next.1, next.2⟩ := by
  cases hWritten : operation.written? with
  | none => exact .inl (perform_of_not_written hWritten)
  | some written =>
    obtain ⟨path, value⟩ := written
    rw [perform_of_written hWritten]
    cases hPut : session.store.put session.world path value with
    | error error =>
      rw [Operation.rescope_of_written (by rw [hWritten]; rfl), Store.withScope_scope]
      exact .inl rfl
    | ok next => exact .inr ⟨path, value, next, rfl, hPut, rfl⟩

theorem scope_perform (session : Session) (operation : Operation) :
    (session.perform operation).2.store.scope = operation.rescope session.store.scope := by
  rcases perform_cases session operation with hSame | ⟨path, value, next, hWritten, hPut, hNext⟩
  · rw [hSame, Store.scope_withScope]
  · rw [hNext, Operation.rescope_of_written (by rw [hWritten]; rfl)]
    exact Store.scope_put hPut

theorem run_cons (session : Session) (operation : Operation) (rest : List Operation) :
    session.run (operation :: rest) =
      ((session.perform operation).1 :: ((session.perform operation).2.run rest).1,
        ((session.perform operation).2.run rest).2) := rfl

/-- What every operation preserves, every run preserves. -/
theorem run_induction {motive : Session → Prop}
    (step : ∀ session operation, motive session → motive (session.perform operation).2)
    {session : Session} (h : motive session) (operations : List Operation) :
    motive (session.run operations).2 := by
  induction operations generalizing session with
  | nil => exact h
  | cons operation rest ih => exact ih (step session operation h)

end Session

end ConfigStore
