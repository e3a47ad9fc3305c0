import ConfigStore.Proofs.Ini.Reopening
import ConfigStore.Proofs.Json.Reopening
import ConfigStore.Proofs.Store.Durability

/-!
# Stores that keep a document in a file

What stores of INI and JSON files have in common.

* `Store.put_eq_ok_iff`: a put changes the document of its store and writes the whole of it,
  whatever the file holds by then.
* `Store.Holds` says what a document has at a place. A put keeps what is not at its own place
  (`Store.holds_prepared`).
* `DocumentKind.Tracks` is kept by every put, whatever else has become of the file. A file that such
  a document was written to is read as the same document if everything in it is read back
  (`DocumentKind.Tracks.reopen`, `Store.Rereadable`).
-/

namespace ConfigStore

/-- The kinds of stores that keep a document in a file. -/
inductive DocumentKind where
  | ini
  | json
deriving DecidableEq, Repr

namespace DocumentKind

/-- Open the store of a file. -/
def load (kind : DocumentKind) (disk : Disk) (file : String) : Except Error Store :=
  match kind with
  | ini => (IniFile.load disk file).map .ini
  | json => (JsonFile.load disk file).map .json

/-- Paths under which documents keep the same text. -/
def SamePlace : DocumentKind → List String → List String → Prop
  | ini, path, other => path = other
  | json, path, other => Json.SamePlace path other

end DocumentKind

namespace Store

/-- The store keeps a document of this kind in the file. -/
def KeptIn (kind : DocumentKind) (file : String) : Store → Prop
  | ini store => kind = .ini ∧ store.file = file
  | json store => kind = .json ∧ store.file = file
  | memory _ => False
  | consul _ => False

/-- The store with a value set in its document, if the document takes it. -/
def prepared? (store : Store) (path value : String) : Option Store :=
  match store with
  | ini store =>
    match IniFile.check (store.held.scope.resolve path) value, store.held.put path value with
    | .ok _, .ok held => some (ini { store with held })
    | _, _ => none
  | json store =>
    match store.document.set (store.scope.resolve path) value with
    | .ok document => some (json { store with document })
    | .error _ => none
  | memory _ => none
  | consul _ => none

variable {kind : DocumentKind} {file path value : String} {store prepared : Store} {world : World}

theorem prepared?_ini_eq_some_iff {store : IniFile} :
    (ini store).prepared? path value = some prepared ↔
      IniFile.check (store.held.scope.resolve path) value = .ok () ∧
        ∃ tree, store.held.tree.insert (store.held.scope.resolve path) value = .ok tree ∧
          prepared = ini { store with held := { store.held with tree } } := by
  rw [prepared?, ScopedTree.put]
  cases IniFile.check (store.held.scope.resolve path) value with
  | error error => simp
  | ok done =>
    cases store.held.tree.insert (store.held.scope.resolve path) value with
    | error error => simp
    | ok tree => simp [eq_comm]

theorem prepared?_json_eq_some_iff {store : JsonFile} :
    (json store).prepared? path value = some prepared ↔
      ∃ document, store.document.set (store.scope.resolve path) value = .ok document ∧
        prepared = json { store with document } := by
  rw [prepared?]
  cases store.document.set (store.scope.resolve path) value with
  | error obstacle => simp
  | ok document => simp [eq_comm]

/-- A put that succeeds writes the whole document, in which the value is set. -/
theorem put_eq_ok_iff (h : store.KeptIn kind file) {next : Store × World} :
    store.put world path value = .ok next ↔
      store.prepared? path value = some next.1 ∧
        ∃ text disk, next.1.rendering? = some text ∧ world.disk.write file text = .ok disk ∧
          next.2 = { world with disk } := by
  obtain ⟨prepared, later⟩ := next
  cases store with
  | memory held => exact h.elim
  | consul client => exact h.elim
  | ini store =>
    obtain ⟨-, rfl⟩ := h
    rw [put_ini, Except.map_eq_ok_iff, prepared?_ini_eq_some_iff]
    constructor
    · rintro ⟨⟨changed, disk⟩, hPut, hEq⟩
      cases hEq
      obtain ⟨hCheck, tree, hTree, hWrite, rfl⟩ := IniFile.put_eq_ok_iff.mp hPut
      exact ⟨⟨hCheck, tree, hTree, rfl⟩, _, disk, rfl, hWrite, rfl⟩
    · rintro ⟨⟨hCheck, tree, hTree, rfl⟩, text, disk, hText, hWrite, rfl⟩
      cases hText
      exact ⟨(_, disk), IniFile.put_eq_ok_iff.mpr ⟨hCheck, tree, hTree, hWrite, rfl⟩, rfl⟩
  | json store =>
    obtain ⟨-, rfl⟩ := h
    rw [put_json, Except.map_eq_ok_iff, prepared?_json_eq_some_iff]
    constructor
    · rintro ⟨⟨changed, disk⟩, hPut, hEq⟩
      cases hEq
      obtain ⟨hSet, hWrite, hChanged⟩ := JsonFile.put_eq_ok_iff.mp hPut
      exact ⟨⟨_, hSet, congrArg json hChanged⟩, _, disk, rfl, hWrite, rfl⟩
    · rintro ⟨⟨document, hSet, rfl⟩, text, disk, hText, hWrite, rfl⟩
      cases hText
      exact ⟨(_, disk), JsonFile.put_eq_ok_iff.mpr ⟨hSet, hWrite, rfl⟩, rfl⟩

/-- Setting a value leaves the scope and the file of a store. -/
theorem keptIn_prepared (h : store.KeptIn kind file)
    (hPrepared : store.prepared? path value = some prepared) :
    prepared.KeptIn kind file ∧ prepared.scope = store.scope := by
  cases store with
  | memory held => exact h.elim
  | consul client => exact h.elim
  | ini store =>
    obtain ⟨-, tree, -, rfl⟩ := prepared?_ini_eq_some_iff.mp hPrepared
    exact ⟨h, rfl⟩
  | json store =>
    obtain ⟨document, -, rfl⟩ := prepared?_json_eq_some_iff.mp hPrepared
    exact ⟨h, rfl⟩

/-- The document of the store has a string at a place, counted from the top. -/
def Holds (place : List String) (text : String) : Store → Prop
  | ini store => store.held.tree.root.valueAt? place = some text
  | json store => Json.get? place store.document = some (.string text)
  | memory _ => False
  | consul _ => False

theorem get_of_holds {text : String} (h : store.Holds (store.scope.resolve path) text)
    (world : World) : store.get world path = .ok (some text) := by
  cases store with
  | memory held => exact h.elim
  | consul client => exact h.elim
  | ini store => exact congrArg Except.ok h
  | json store => exact congrArg (fun found => Except.ok (found.bind Json.scalarText?)) h

/-- A value that is set is found, and strings at other places are kept. -/
theorem holds_prepared (h : store.KeptIn kind file)
    (hPrepared : store.prepared? path value = some prepared) :
    prepared.Holds (store.scope.resolve path) value ∧
      ∀ {place : List String} {text : String}, ¬ kind.SamePlace (store.scope.resolve path) place →
        store.Holds place text → prepared.Holds place text := by
  cases store with
  | memory held => exact h.elim
  | consul client => exact h.elim
  | ini store =>
    obtain ⟨rfl, -⟩ := h
    obtain ⟨-, tree, hTree, rfl⟩ := prepared?_ini_eq_some_iff.mp hPrepared
    have hValue := Tree.valueAt?_insert hTree
    refine ⟨(hValue _).trans (if_pos rfl), fun hPlace hText => ?_⟩
    exact (hValue _).trans ((if_neg (Ne.symm hPlace)).trans hText)
  | json store =>
    obtain ⟨rfl, -⟩ := h
    obtain ⟨document, hSet, rfl⟩ := prepared?_json_eq_some_iff.mp hPrepared
    rw [Json.set_eq_overwrite] at hSet
    split at hSet
    · cases hSet
    · exact ⟨Json.get?_overwrite hSet, fun hPlace hText =>
        Json.get?_overwrite_of_not_samePlace hSet hPlace hText rfl⟩

end Store

namespace Store

/-- Everything in the document is read back once it is written. -/
def Rereadable : Store → Prop
  | ini store => ∀ leaf ∈ store.held.tree.root.leaves, Ini.rereadable leaf.1 = true
  | json store =>
    store.document.depth ≤ Json.maxDepth ∧
      ∀ d, .double d ∈ store.document.numbers →
        Json.read (Json.Number.double d).text = .ok (.number (.double d))
  | memory _ => False
  | consul _ => False

@[simp] theorem holds_withScope {store : Store} {scope : Scope} {place : List String}
    {text : String} : (store.withScope scope).Holds place text ↔ store.Holds place text := by
  cases store <;> exact Iff.rfl

end Store

namespace DocumentKind

/-- What holds of a store since it was loaded, whatever has become of the file. -/
def Tracks (kind : DocumentKind) (file : String) (loaded store : Store) : Prop :=
  match kind with
  | ini =>
    ∃ opened running disk, loaded = .ini opened ∧ store = .ini running ∧ running.file = file ∧
      IniFile.hasSuffix file = true ∧ IniFile.Tracks opened.held.tree running disk
  | json => ∀ world, Session.HoldsDocument file ⟨store, world⟩

variable {kind : DocumentKind} {file text path value : String} {world : World} {disk : Disk}
  {loaded store : Store}

theorem Tracks.keptIn (h : kind.Tracks file loaded store) : store.KeptIn kind file := by
  cases kind with
  | ini =>
    obtain ⟨opened, running, disk, -, rfl, rfl, -⟩ := h
    exact ⟨rfl, rfl⟩
  | json =>
    obtain ⟨running, hRunning, hFile, -⟩ := h {}
    obtain rfl : store = .json running := hRunning
    exact ⟨rfl, hFile⟩

theorem tracks_run (hLoad : kind.load world.disk file = .ok loaded)
    (operations : List Operation) :
    kind.Tracks file loaded (Session.run ⟨loaded, world⟩ operations).2.store := by
  cases kind with
  | ini =>
    obtain ⟨opened, hOpened, rfl⟩ := Except.map_eq_ok_iff.mp hLoad
    obtain ⟨-, hSuffix, -⟩ := IniFile.tracks_of_load hOpened
    obtain ⟨running, hRunning, hFile, hTracks⟩ := IniFile.tracks_run hOpened operations
    exact ⟨opened, running, _, rfl, hRunning, hFile, hSuffix, hTracks⟩
  | json =>
    obtain ⟨opened, hOpened, rfl⟩ := Except.map_eq_ok_iff.mp hLoad
    have hFile : opened.file = file := by
      obtain ⟨document, -, rfl⟩ := Except.map_eq_ok_iff.mp hOpened
      rfl
    have hHolds := Session.run_induction (motive := Session.HoldsDocument file)
      (fun session operation h => h.perform operation)
      (⟨opened, rfl, hFile, JsonFile.exists_sound_of_load hOpened⟩ :
        Session.HoldsDocument file ⟨.json opened, world⟩) operations
    exact fun _ => hHolds

theorem Tracks.put (h : kind.Tracks file loaded store) {next : Store × World}
    (hPut : store.put world path value = .ok next) : kind.Tracks file loaded next.1 := by
  cases kind with
  | ini =>
    obtain ⟨opened, running, disk, rfl, rfl, rfl, hSuffix, hTracks⟩ := h
    rw [Store.put_ini] at hPut
    obtain ⟨⟨changed, later⟩, hChanged, rfl⟩ := Except.map_eq_ok_iff.mp hPut
    obtain ⟨hFile, hAfter, -⟩ := hTracks.put hChanged
    exact ⟨opened, changed, later, rfl, rfl, hFile, hSuffix, hAfter⟩
  | json => exact fun _ => (Session.HoldsDocument.put (h world) hPut).1

/-- What is found in a file that holds the document of a store that was loaded and has been used
since. -/
theorem Tracks.reopen (h : kind.Tracks file loaded store) (hText : store.rendering? = some text)
    (hRead : disk.read file = .ok text) :
    (kind = .ini → loaded.Rereadable → store.Rereadable) ∧
      (store.Rereadable → ∃ reopened, kind.load disk file = .ok reopened ∧
        reopened.withScope store.scope = store) ∧
      ((kind = .ini → store.Rereadable) → ∀ reopened, kind.load disk file = .ok reopened →
        ∀ {place : List String} {value : String}, store.Holds place value →
          reopened.Holds place value) := by
  cases kind with
  | ini =>
    obtain ⟨opened, running, _, rfl, rfl, rfl, hSuffix, hTracks⟩ := h
    cases hText
    have hReopened : (Store.ini running).Rereadable → DocumentKind.ini.load disk running.file =
        .ok (.ini ⟨running.file, { tree := running.held.tree }⟩) := by
      intro hAll
      have hBack := Ini.read_render hTracks.fits hTracks.filled hTracks.separator_eq
        fun path value hValue => IniFile.rereadable_leaves_iff.mp hAll path
          (by rw [hValue, Option.isSome_some])
      exact congrArg (Except.map Store.ini) (IniFile.load_of_read hSuffix hRead hBack)
    refine ⟨fun _ hLoaded => ?_, fun hAll => ⟨_, hReopened hAll, rfl⟩,
      fun hAll reopened hAgain place value hHolds => ?_⟩
    · refine IniFile.rereadable_leaves_iff.mpr fun path hPath => ?_
      obtain ⟨value, hValue⟩ := Option.isSome_iff_exists.mp hPath
      exact (hTracks.others path value hValue).elim id
        (IniFile.rereadable_leaves_iff.mp hLoaded path)
    · cases hAgain.symm.trans (hReopened (hAll rfl))
      exact hHolds
  | json =>
    obtain ⟨running, hRunning, rfl, limit, -, hSound⟩ := h {}
    obtain rfl : store = .json running := hRunning
    cases hText
    refine ⟨fun hKind => ?_, fun hAll => ?_, fun _ reopened hAgain place value hValue => ?_⟩
    · cases hKind
    · have hReopened : JsonFile.load disk running.file =
          .ok { file := running.file, document := running.document } :=
        (JsonFile.load_eq_ok_iff_of_pretty hSound hRead).mpr
          ⟨hSound.reread?_eq_self_iff.mpr hAll, rfl⟩
      exact ⟨_, congrArg (Except.map Store.json) hReopened, rfl⟩
    · obtain ⟨again, hLoaded, rfl⟩ := Except.map_eq_ok_iff.mp hAgain
      obtain ⟨hReread, -⟩ := (JsonFile.load_eq_ok_iff_of_pretty hSound hRead).mp hLoaded
      exact Json.get?_of_reread? hReread hValue

end DocumentKind

end ConfigStore
