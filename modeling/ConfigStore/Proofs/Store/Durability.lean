import ConfigStore.Proofs.Disk
import ConfigStore.Proofs.Ini.Check
import ConfigStore.Proofs.Json.Reopening
import ConfigStore.Proofs.Store.Session

/-!
# Stores and their files

A store that is opened from a file keeps the document in memory and writes it anew on every put.

* `Store.rendering?` is the text of the document that a store holds. A session is in step with the
  file if this is what the file holds (`Session.InStep`).
* `Session.inStep_of_put`: a put that succeeds brings the session and the file in step.
* `Session.Undisturbed`: the sessions that follow while nothing else writes the file. They stay in
  step (`Session.Undisturbed.inStep`).
* `Session.put_all_or_nothing`: a put that fails changes nothing at all, and one that succeeds
  changes the document and the file alike, for good.
-/

namespace ConfigStore

namespace Store

/-- The file that the document of a store is written to. -/
def file? : Store → Option String
  | ini store => some store.file
  | json store => some store.file
  | memory _ => none
  | consul _ => none

/-- The text that the document of a store is written as. -/
def rendering? : Store → Option String
  | ini store => some (Ini.render store.held.tree)
  | json store => some store.document.pretty
  | memory _ => none
  | consul _ => none

@[simp] theorem file?_withScope (store : Store) (scope : Scope) :
    (store.withScope scope).file? = store.file? := by
  cases store <;> rfl

@[simp] theorem rendering?_withScope (store : Store) (scope : Scope) :
    (store.withScope scope).rendering? = store.rendering? := by
  cases store <;> rfl

end Store

namespace Session

variable {file path value : String} {session later : Session}

/-- The file holds the text of the document that the session holds. -/
def InStep (file : String) (session : Session) : Prop :=
  session.store.file? = some file ∧
    ∃ text, session.store.rendering? = some text ∧ session.world.disk.read file = .ok text

/-- A put that succeeds has written the document in which the value is found. -/
theorem inStep_of_put {next : Store × World} (hFile : session.store.file? = some file)
    (hPut : session.store.put session.world path value = .ok next) :
    InStep file ⟨next.1, next.2⟩ ∧ next.1.get next.2 path = .ok (some value) := by
  obtain ⟨store, world⟩ := session
  cases store with
  | memory | consul => cases hFile
  | ini store =>
    cases hFile
    rw [Store.put_ini] at hPut
    obtain ⟨⟨changed, disk⟩, hChanged, rfl⟩ := Except.map_eq_ok_iff.mp hPut
    obtain ⟨-, tree, hTree, hWrite, rfl⟩ := IniFile.put_eq_ok_iff.mp hChanged
    have hValue : tree.root.valueAt? (store.held.scope.resolve path) = some value := by
      rw [Tree.valueAt?_insert hTree, if_pos rfl]
    exact ⟨⟨rfl, _, rfl, Disk.read_write hWrite⟩, congrArg Except.ok hValue⟩
  | json store =>
    cases hFile
    rw [Store.put_json] at hPut
    obtain ⟨⟨changed, disk⟩, hChanged, rfl⟩ := Except.map_eq_ok_iff.mp hPut
    obtain ⟨-, hWrite, hEq⟩ := JsonFile.put_eq_ok_iff.mp hChanged
    have hName : changed.file = store.file := (congrArg JsonFile.file hEq :)
    have hScope : changed.scope = store.scope := (congrArg JsonFile.scope hEq :)
    have hValue : changed.get? path = some value := by
      rw [JsonFile.get?, hScope, JsonFile.get?_of_put hChanged]
      rfl
    exact ⟨⟨congrArg some hName, _, rfl, Disk.read_write hWrite⟩, congrArg Except.ok hValue⟩

/-- No operation takes a session out of step with its file. -/
theorem InStep.perform (h : session.InStep file) (operation : Operation) :
    (session.perform operation).2.InStep file := by
  rcases perform_cases session operation with hSame | ⟨path, value, next, -, hPut, hNext⟩
  · rw [hSame, InStep, Store.file?_withScope, Store.rendering?_withScope]
    exact h
  · rw [hNext]
    exact (inStep_of_put h.1 hPut).1

/-- The sessions that follow on a session while nothing else writes the file: operations are
carried out, and the rest of the world may change at any time. -/
inductive Undisturbed (file : String) (session : Session) : Session → Prop
  | start : Undisturbed file session session
  | operation {later : Session} (h : Undisturbed file session later) (operation : Operation) :
    Undisturbed file session (later.perform operation).2
  | elsewhere {later : Session} (h : Undisturbed file session later) (world : World)
    (hRead : world.disk.read file = later.world.disk.read file) :
    Undisturbed file session { later with world }

/-- A session in step with its file stays so for as long as nothing else writes the file. -/
theorem Undisturbed.inStep (h : Undisturbed file session later) (hStart : session.InStep file) :
    later.InStep file := by
  induction h with
  | start => exact hStart
  | operation _ operation ih => exact ih.perform operation
  | elsewhere _ world hRead ih =>
    obtain ⟨hFile, text, hText, hHeld⟩ := ih
    exact ⟨hFile, text, hText, hRead.trans hHeld⟩

/-- Whatever a session with a file has been through, a put either fails, and the session is the same
as before, or it succeeds: the value is found, and the file holds the text of the document then and
for as long as nothing else writes it. -/
theorem put_all_or_nothing (hFile : session.store.file? = some file) {operation : Operation}
    (hWritten : operation.written? = some (path, value)) :
    let after := (session.perform operation).2
    (∃ error, session.perform operation = (.error error, session)) ∨
      (session.perform operation).1 = .ok .done ∧
        after.store.get after.world path = .ok (some value) ∧
        ∀ later, Undisturbed file after later → later.InStep file := by
  intro after
  have hPerform : session.perform operation =
      session.afterPut (session.store.put session.world path value) := perform_of_written hWritten
  cases hPut : session.store.put session.world path value with
  | error error =>
    rw [hPut] at hPerform
    exact .inl ⟨error, hPerform⟩
  | ok next =>
    rw [hPut] at hPerform
    have hAfter : after = ⟨next.1, next.2⟩ := congrArg Prod.snd hPerform
    obtain ⟨hStep, hGet⟩ := inStep_of_put hFile hPut
    rw [hAfter]
    exact .inr ⟨congrArg Prod.fst hPerform, hGet, fun later hLater => hLater.inStep hStep⟩

/-- A new document, and the same with one number in it. -/
def unwritten : Session := ⟨.json JsonFile.fresh, {}⟩

def written : Session := (unwritten.perform (.putInt "a/b" 7)).2

/-- A number is written for good, and a put at its parent then changes nothing. -/
theorem put_all_or_nothing_app :
    (unwritten.store.file? = some "app.json" ∧
      Operation.written? (.putInt "a/b" 7) = some ("a/b", "7") ∧
      written.store.get written.world "a/b" = .ok (some "7") ∧
      (∀ later, Undisturbed "app.json" written later → later.InStep "app.json") ∧
      written.world.disk.read "app.json" =
        .ok "\x7b\n  \"a\": \x7b\n    \"b\": \"7\"\n  \x7d\n\x7d") ∧
    (written.store.file? = some "app.json" ∧
      Operation.written? (.put "a" "x") = some ("a", "x") ∧
      ∃ error, written.perform (.put "a" "x") = (.error error, written)) := by
  have hOpened : unwritten.store.file? = some "app.json" := rfl
  have hNumber : Operation.written? (.putInt "a/b" 7) = some ("a/b", "7") := by decide +kernel
  have hText : Operation.written? (.put "a" "x") = some ("a", "x") := rfl
  have hDone : (unwritten.perform (.putInt "a/b" 7)).1 = .ok .done := by decide +kernel
  have hRefused : (written.perform (.put "a" "x")).1 ≠ .ok .done := by decide +kernel
  have hRead : written.world.disk.read "app.json" =
      .ok "\x7b\n  \"a\": \x7b\n    \"b\": \"7\"\n  \x7d\n\x7d" := by decide +kernel
  obtain ⟨error, hFailed⟩ | ⟨-, hGet, hStep⟩ := put_all_or_nothing hOpened hNumber
  · rw [hFailed] at hDone
    cases hDone
  have hFile : written.store.file? = some "app.json" := (hStep _ .start).1
  obtain hFailed | ⟨hSecond, -, -⟩ := put_all_or_nothing hFile hText
  · exact ⟨⟨hOpened, hNumber, hGet, hStep, hRead⟩, hFile, hText, hFailed⟩
  · exact absurd hSecond hRefused

end Session

end ConfigStore
