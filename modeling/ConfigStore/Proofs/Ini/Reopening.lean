import ConfigStore.Proofs.Disk
import ConfigStore.Proofs.Ini.Check
import ConfigStore.Proofs.Ini.Criterion
import ConfigStore.Proofs.Store.Session

/-!
# Opening a file again

What a file holds while a store that was loaded from it runs.

* `IniFile.Tracks` is kept by every operation: the store can be written, and the file is as it was
  loaded or written from the store.
* `IniFile.Tracks.readTree_eq`: if all loaded paths are rereadable, the file holds the tree of the
  store. This is so for a file that was missing.
* `IniFile.Tracks.reopen_put_iff`: a put leaves the rest of the file as it was if and only if all
  loaded paths are rereadable. Files that were written by hand can hold others.
-/

namespace ConfigStore

theorem Scope.ne_empty_of_mem_resolve {scope : Scope} (h : ∀ name ∈ scope.root, name ≠ "")
    (text : String) : ∀ name ∈ scope.resolve text, name ≠ "" := by
  intro name hName
  rcases List.mem_append.mp hName with hName | hName
  · exact h name hName
  · exact (Path.mem_split hName).1

theorem Operation.ne_empty_of_mem_rescope {scope : Scope} (h : ∀ name ∈ scope.root, name ≠ "")
    (operation : Operation) : ∀ name ∈ (operation.rescope scope).root, name ≠ "" := by
  cases operation with
  | setRoot path => exact fun name hName => (Path.mem_split hName).1
  | _ => exact h

namespace IniFile

/-- What holds of a store that runs on a file, and of the disk with the file, since the tree
`loaded` was read from it. -/
structure Tracks (loaded : Tree) (store : IniFile) (disk : Disk) : Prop where
  ne_empty : ∀ name ∈ store.held.scope.root, name ≠ ""
  separator_eq : store.held.tree.separator = Ini.separator
  filled : store.held.tree.root.Filled
  fits : Ini.AllFit store.held.tree
  /-- The paths that were put are rereadable. -/
  others : ∀ path value, store.held.tree.root.valueAt? path = some value →
    Ini.rereadable path = true ∨ (loaded.root.valueAt? path).isSome = true
  kept : ∀ path, (loaded.root.valueAt? path).isSome = true →
    (store.held.tree.root.valueAt? path).isSome = true
  /-- The file is as it was loaded, or written by a put. -/
  onDisk : readTree disk store.file = .ok loaded ∧ store.held.tree = loaded ∨
    disk.read store.file = .ok (Ini.render store.held.tree)

variable {loaded : Tree} {store : IniFile} {disk : Disk}

theorem tracks_of_load {file : String} (h : load disk file = .ok store) :
    store.file = file ∧ hasSuffix file = true ∧ Tracks store.held.tree store disk := by
  obtain ⟨hSuffix, tree, hTree, rfl⟩ := load_eq_ok_iff.mp h
  have hSound : Ini.AllFit tree ∧ tree.root.Filled ∧ tree.separator = Ini.separator := by
    rw [readTree] at hTree
    split at hTree
    next text hText => exact Ini.sound_of_read (Except.mapError_eq_ok_iff.mp hTree)
    · cases hTree
      exact ⟨Ini.allFit_empty, Node.filled_empty, rfl⟩
    · cases hTree
  refine ⟨rfl, hSuffix, ?_⟩
  exact {
    ne_empty := fun name hName => by cases hName
    separator_eq := hSound.2.2
    filled := hSound.2.1
    fits := hSound.1
    others := fun path value hValue => .inr (by rw [hValue, Option.isSome_some])
    kept := fun path hPath => hPath
    onDisk := .inl ⟨hTree, rfl⟩ }

theorem Tracks.rescope (h : Tracks loaded store disk) {scope : Scope}
    (hScope : ∀ name ∈ scope.root, name ≠ "") :
    Tracks loaded { store with held := { store.held with scope } } disk :=
  { h with ne_empty := hScope }

/-- A put writes the whole document, to whatever disk. -/
theorem Tracks.put (h : Tracks loaded store disk) {changed : IniFile} {other next : Disk}
    {path value : String} (hPut : store.put other path value = .ok (changed, next)) :
    changed.file = store.file ∧ Tracks loaded changed next ∧
      next.read store.file = .ok (Ini.render changed.held.tree) := by
  obtain ⟨hCheck, tree, hTree, hWrite, rfl⟩ := put_eq_ok_iff.mp hPut
  have hRead := Disk.read_write hWrite
  have hNe := Scope.ne_empty_of_mem_resolve h.ne_empty path
  have hPath := (Tree.insert_eq_ok_iff.mp hTree).1
  refine ⟨rfl, ?_, hRead⟩
  exact {
    ne_empty := h.ne_empty
    separator_eq := (Tree.separator_insert hTree).trans h.separator_eq
    filled := Tree.filled_insert h.filled hTree
    fits := h.fits.insert (fits_of_check hNe hCheck) hTree
    others := by
      intro other found hFound
      rw [Tree.valueAt?_insert hTree] at hFound
      split at hFound
      next hEq =>
        rw [hEq]
        exact .inl (rereadable_of_check hPath hNe hCheck)
      · exact h.others other found hFound
    kept := by
      intro other hOther
      rw [Tree.valueAt?_insert hTree]
      split
      · rfl
      · exact h.kept other hOther
    onDisk := .inr hRead }

/-- If all loaded paths are rereadable, the file holds the tree of the store. -/
theorem Tracks.readTree_eq (h : Tracks loaded store disk)
    (hLoaded : ∀ path, (loaded.root.valueAt? path).isSome = true → Ini.rereadable path = true) :
    readTree disk store.file = .ok store.held.tree := by
  rcases h.onDisk with ⟨hRead, hTree⟩ | hRead
  · rw [hRead, hTree]
  · have hBack := Ini.read_render h.fits h.filled h.separator_eq fun path value hValue =>
      (h.others path value hValue).elim id (hLoaded path)
    rw [readTree_of_read hRead, hBack]
    rfl

end IniFile

/-! ## Runs -/

/-- A session on a file that was loaded. -/
def Session.Tracks (loaded : Tree) (file : String) (session : Session) : Prop :=
  ∃ store, session.store = .ini store ∧ store.file = file ∧
    IniFile.Tracks loaded store session.world.disk

namespace Session.Tracks

variable {loaded : Tree} {file : String} {session : Session}

/-- What a put that succeeds leaves on the disk. -/
theorem read_of_put (h : session.Tracks loaded file) {next : Store × World} {path value : String}
    (hPut : session.store.put session.world path value = .ok next) :
    ∃ store changed, session.store = .ini store ∧ next.1 = .ini changed ∧
      store.put session.world.disk path value = .ok (changed, next.2.disk) ∧
      changed.file = file ∧ IniFile.Tracks loaded changed next.2.disk ∧
      next.2.disk.read file = .ok (Ini.render changed.held.tree) := by
  obtain ⟨store, hStore, hFile, hTracks⟩ := h
  rw [hStore, Store.put_ini] at hPut
  obtain ⟨⟨changed, disk⟩, hChanged, rfl⟩ := Except.map_eq_ok_iff.mp hPut
  obtain ⟨hChangedFile, hChangedTracks, hRead⟩ := hTracks.put hChanged
  rw [hFile] at hChangedFile hRead
  exact ⟨store, changed, hStore, rfl, hChanged, hChangedFile, hChangedTracks, hRead⟩

theorem perform (h : session.Tracks loaded file) (operation : Operation) :
    (session.perform operation).2.Tracks loaded file := by
  rcases perform_cases session operation with hSame | ⟨path, value, next, -, hPut, hNext⟩
  · rw [hSame]
    obtain ⟨store, hStore, hFile, hTracks⟩ := h
    refine ⟨⟨store.file, ⟨operation.rescope store.held.scope, store.held.tree⟩⟩, ?_, hFile, ?_⟩
    · rw [hStore]
      rfl
    · exact hTracks.rescope (operation.ne_empty_of_mem_rescope hTracks.ne_empty)
  · rw [hNext]
    obtain ⟨-, changed, -, hChanged, -, hFile, hTracks, -⟩ := h.read_of_put hPut
    exact ⟨changed, hChanged, hFile, hTracks⟩

theorem run (h : session.Tracks loaded file) (operations : List Operation) :
    (session.run operations).2.Tracks loaded file :=
  run_induction (fun _ operation h => h.perform operation) h operations

end Session.Tracks

namespace IniFile

theorem tracks_run {world : World} {file : String} {store : IniFile}
    (hLoad : load world.disk file = .ok store) (operations : List Operation) :
    (Session.run ⟨.ini store, world⟩ operations).2.Tracks store.held.tree file := by
  obtain ⟨hFile, -, hTracks⟩ := tracks_of_load hLoad
  exact Session.Tracks.run ⟨store, rfl, hFile, hTracks⟩ operations

/-- A store that starts on a file that is not there writes nothing that is not read back: whatever
is done to it, opening the file again gives its tree. -/
theorem reopen_of_missing {world : World} {file : String} {store : IniFile}
    (hMissing : world.disk.read file = .error .notFound)
    (hLoad : load world.disk file = .ok store) (operations : List Operation) :
    ∃ running reopened,
      (Session.run ⟨.ini store, world⟩ operations).2.store = .ini running ∧
        load (Session.run ⟨.ini store, world⟩ operations).2.world.disk file = .ok reopened ∧
        reopened.held.tree = running.held.tree ∧
        Ini.read (Ini.render running.held.tree) = .ok running.held.tree := by
  obtain ⟨running, hStore, rfl, hTracks⟩ := tracks_run hLoad operations
  obtain ⟨hSuffix, tree, hTree, rfl⟩ := load_eq_ok_iff.mp hLoad
  have hEmpty : Tree.empty Ini.separator = tree := by
    rw [readTree, hMissing] at hTree
    exact Except.ok.inj hTree
  have hLoaded : ∀ path, (tree.root.valueAt? path).isSome = true →
      Ini.rereadable path = true := by
    intro path hPath
    rw [← hEmpty, Tree.valueAt?_empty] at hPath
    cases hPath
  refine ⟨running, _, hStore,
    load_eq_ok_iff.mpr ⟨hSuffix, _, hTracks.readTree_eq hLoaded, rfl⟩, rfl, ?_⟩
  exact Ini.read_render hTracks.fits hTracks.filled hTracks.separator_eq fun path value hValue =>
    (hTracks.others path value hValue).elim id (hLoaded path)

theorem reopen_of_missing_app :
    ∃ running reopened,
      (Session.run ⟨.ini ⟨"app.ini", {}⟩, {}⟩ [.put "a/b" "c", .put "a" "d"]).2.store =
          .ini running ∧
        load (Session.run ⟨.ini ⟨"app.ini", {}⟩, {}⟩ [.put "a/b" "c", .put "a" "d"]).2.world.disk
          "app.ini" = .ok reopened ∧
        reopened.held.tree = running.held.tree ∧
        Ini.read (Ini.render running.held.tree) = .ok running.held.tree :=
  reopen_of_missing (by decide) rfl [.put "a/b" "c", .put "a" "d"]

/-! ## Files that were written by hand -/

theorem rereadable_leaves_iff {tree : Tree} :
    (∀ leaf ∈ tree.root.leaves, Ini.rereadable leaf.1 = true) ↔
      ∀ path, (tree.root.valueAt? path).isSome = true → Ini.rereadable path = true := by
  constructor
  · intro h path hPath
    obtain ⟨value, hValue⟩ := Option.isSome_iff_exists.mp hPath
    exact h (path, value) ((Node.mem_leaves_iff tree.ordered).mpr hValue)
  · rintro h ⟨path, value⟩ hLeaf
    have hValue := (Node.mem_leaves_iff tree.ordered).mp hLeaf
    exact h path (by rw [hValue, Option.isSome_some])

/-- After a put, the file holds everything else as the store does if and only if all paths that
were loaded are rereadable. -/
theorem Tracks.reopen_put_iff {loaded : Tree} {store changed : IniFile} {disk next : Disk}
    {path value : String} (h : Tracks loaded store disk)
    (hPut : store.put disk path value = .ok (changed, next)) :
    (∃ back, readTree next store.file = .ok back ∧
        ∀ other, other ≠ store.held.scope.resolve path →
          back.root.valueAt? other = store.held.tree.root.valueAt? other) ↔
      ∀ path, (loaded.root.valueAt? path).isSome = true → Ini.rereadable path = true := by
  obtain ⟨hFile, hTracks, hRead⟩ := h.put hPut
  obtain ⟨hCheck, tree, hTree, -, rfl⟩ := put_eq_ok_iff.mp hPut
  have hValue := Tree.valueAt?_insert hTree
  constructor
  · rintro ⟨back, hBack, hSame⟩ other hOther
    rw [readTree_of_read hRead, Except.mapError_eq_ok_iff] at hBack
    obtain ⟨found, hFound⟩ := Option.isSome_iff_exists.mp (hTracks.kept other hOther)
    refine Ini.rereadable_of_kept hTracks.fits hBack (fun put text hText => ?_) hFound
    by_cases hEq : put = store.held.scope.resolve path
    · rw [hEq]
      exact .inl (rereadable_of_check (Tree.insert_eq_ok_iff.mp hTree).1
        (Scope.ne_empty_of_mem_resolve h.ne_empty path) hCheck)
    · rw [hValue, if_neg hEq] at hText
      rw [hSame put hEq, hText]
      exact .inr rfl
  · intro hLoaded
    refine ⟨tree, hTracks.readTree_eq hLoaded, fun other hOther => ?_⟩
    rw [hValue, if_neg hOther]

end IniFile

namespace Session.Tracks

variable {loaded : Tree} {file : String} {session after : Session} {path value : String}

/-- What is found when the file is opened again after a put. -/
theorem reopen_of_done (h : session.Tracks loaded file) (hSuffix : IniFile.hasSuffix file = true)
    (hDone : session.perform (.put path value) = (.ok .done, after)) :
    ∃ running changed, session.store = .ini running ∧ after.store = .ini changed ∧
      ((∃ reopened, IniFile.load after.world.disk file = .ok reopened ∧
          ∀ other, other ≠ running.held.scope.resolve path →
            reopened.held.tree.root.valueAt? other = running.held.tree.root.valueAt? other) ↔
        ∀ leaf ∈ loaded.root.leaves, Ini.rereadable leaf.1 = true) ∧
      ((∀ leaf ∈ loaded.root.leaves, Ini.rereadable leaf.1 = true) →
        ∃ reopened, IniFile.load after.world.disk file = .ok reopened ∧
          reopened.held.tree = changed.held.tree) := by
  obtain ⟨next, hPut, rfl⟩ := put_eq_of_done hDone
  obtain ⟨running, changed, hRunning, hChanged, hFilePut, hFile, hAfter, -⟩ := h.read_of_put hPut
  refine ⟨running, changed, hRunning, hChanged, ?_, ?_⟩
  · obtain ⟨current, hCurrent, hCurrentFile, hTracks⟩ := h
    cases hRunning.symm.trans hCurrent
    rw [IniFile.rereadable_leaves_iff, ← hTracks.reopen_put_iff hFilePut, hCurrentFile]
    exact IniFile.exists_load_iff hSuffix fun tree =>
      ∀ other, other ≠ running.held.scope.resolve path →
        tree.root.valueAt? other = running.held.tree.root.valueAt? other
  · intro hAll
    have hReread := hAfter.readTree_eq (IniFile.rereadable_leaves_iff.mp hAll)
    rw [hFile] at hReread
    exact (IniFile.exists_load_iff hSuffix (· = changed.held.tree)).mpr ⟨_, hReread, rfl⟩

end Session.Tracks

namespace IniFile

/-- What becomes of a document that is rewritten. It is read as it was before if and only if all of
its paths are rereadable, and the same decides whether a put that succeeds leaves everything else
in the file as it was. -/
theorem rewriting_keeps_iff {text : String} {tree : Tree} (hRead : Ini.read text = .ok tree) :
    (Ini.read (Ini.render tree) = .ok tree ↔
      ∀ leaf ∈ tree.root.leaves, Ini.rereadable leaf.1 = true) ∧
    ∀ {world : World} {file : String} {store : IniFile} (operations : List Operation)
      {before after : Session} {path value : String},
      world.disk.read file = .ok text → load world.disk file = .ok store →
      (Session.run ⟨.ini store, world⟩ operations).2 = before →
      before.perform (.put path value) = (.ok .done, after) →
      ∃ running changed, before.store = .ini running ∧ after.store = .ini changed ∧
        ((∃ reopened, load after.world.disk file = .ok reopened ∧
            ∀ other, other ≠ running.held.scope.resolve path →
              reopened.held.tree.root.valueAt? other = running.held.tree.root.valueAt? other) ↔
          ∀ leaf ∈ tree.root.leaves, Ini.rereadable leaf.1 = true) ∧
        ((∀ leaf ∈ tree.root.leaves, Ini.rereadable leaf.1 = true) →
          ∃ reopened, load after.world.disk file = .ok reopened ∧
            reopened.held.tree = changed.held.tree) := by
  obtain ⟨hFits, hFilled, hSeparator⟩ := Ini.sound_of_read hRead
  refine ⟨?_, ?_⟩
  · rw [Ini.read_render_iff hFits hFilled hSeparator, rereadable_leaves_iff]
    apply forall_congr'
    intro path
    rw [Option.isSome_iff_exists, forall_exists_index]
  · intro world file store operations before after path value hText hLoad hBefore hDone
    have hTracks := hBefore ▸ tracks_run hLoad operations
    obtain ⟨hSuffix, loaded, hLoaded, rfl⟩ := load_eq_ok_iff.mp hLoad
    have hTree : loaded = tree := by
      rw [readTree_of_read hText, hRead] at hLoaded
      exact (Except.ok.inj hLoaded).symm
    subst hTree
    exact hTracks.reopen_of_done hSuffix hDone

/-- A disk with one file, in which a name begins like a comment. -/
def handWritten : Disk := { entries := [(["app.ini"], .text "a/;b = 1\n")] }

/-- A put takes away the value of the name that begins like a comment. -/
theorem rewriting_loses_value :
    ∃ store after, load handWritten "app.ini" = .ok store ∧
      Session.perform ⟨.ini store, { disk := handWritten }⟩ (.put "k" "2") = (.ok .done, after) ∧
      ¬ ∃ reopened, load after.world.disk "app.ini" = .ok reopened ∧
        ∀ other, other ≠ ["k"] →
          reopened.held.tree.root.valueAt? other = store.held.tree.root.valueAt? other := by
  have hText : handWritten.read "app.ini" = .ok "a/;b = 1\n" := by decide
  have hDone : (load handWritten "app.ini").toOption.map (fun store =>
      ((Session.perform ⟨.ini store, { disk := handWritten }⟩ (.put "k" "2")).1.toOption,
        store.held.tree.root.leaves)) = some (some .done, [(["a", ";b"], "1")]) := by
    decide +kernel
  cases hLoad : load handWritten "app.ini" with
  | error error =>
    rw [hLoad] at hDone
    cases hDone
  | ok store =>
    rw [hLoad] at hDone
    obtain ⟨hPut, hLeaves⟩ := Prod.mk.inj (Option.some.inj hDone)
    obtain ⟨hSuffix, tree, hTree, rfl⟩ := load_eq_ok_iff.mp hLoad
    rw [readTree_of_read hText, Except.mapError_eq_ok_iff] at hTree
    generalize hNext : Session.perform ⟨.ini ⟨"app.ini", { tree }⟩, { disk := handWritten }⟩
      (.put "k" "2") = next at hPut
    obtain ⟨answer, after⟩ := next
    have hAnswer : answer = .ok .done := by
      cases answer with
      | error error => cases hPut
      | ok answer => exact congrArg Except.ok (Option.some.inj hPut)
    subst hAnswer
    refine ⟨_, after, rfl, hNext, fun hKept => ?_⟩
    obtain ⟨running, changed, hRunning, -, hIff, -⟩ :=
      (rewriting_keeps_iff hTree).2 [] hText hLoad rfl hNext
    cases hRunning
    have hReread := hIff.mp hKept (["a", ";b"], "1") (by rw [hLeaves]; exact List.mem_cons_self)
    exact absurd hReread (by decide)

end IniFile

end ConfigStore
