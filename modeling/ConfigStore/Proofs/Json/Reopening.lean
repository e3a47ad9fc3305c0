import ConfigStore.Proofs.Disk
import ConfigStore.Proofs.Json.Collecting
import ConfigStore.Proofs.Json.Locality
import ConfigStore.Proofs.Json.Mirror
import ConfigStore.Proofs.Json.Rereading
import ConfigStore.Proofs.Path
import ConfigStore.Proofs.Store.Session

/-!
# Opening documents again

* `Json.get?_overwrite_of_not_samePlace`: the scalars at other places than that of a string that was
  set are kept, where `Json.SamePlace` knows that a position can be written in more than one way.
* `JsonFile.reopening_keeps_iff`: the file of a put that succeeded holds the same document if and
  only if no more than `Json.maxDepth` arrays and objects are nested in it and its doubles are read
  back. If the file can be read at all, the value that was put is found in it.

A put makes objects for all names of its path, however many there are, and writes the document
without looking at its depth.
-/

namespace ConfigStore.Json

/-- Names that lead to one place in some container: they are the same, or stand for one position. -/
def SameName (name other : String) : Prop :=
  name = other ∨ ∃ position, Decimal.readIndex? name = some position ∧
    Decimal.readIndex? other = some position

/-- Paths that lead to one place in some document. -/
def SamePlace (path other : List String) : Prop := List.Forall₂ SameName path other

/-- The scalars at other places are kept when a string is set. -/
theorem get?_overwrite_of_not_samePlace {text : String} {path other : List String}
    {value changed scalar : Json} (h : value.overwrite text path = .ok changed)
    (hOther : ¬ SamePlace path other) (hScalar : get? other value = some scalar)
    (hText : scalar.scalarText?.isSome = true) : get? other changed = some scalar := by
  fun_induction Json.overwrite text path value generalizing changed other with
  | case1 | case2 | case5 | case7 | case8 | case10 | case11 | case12 | case13 => cases h
  | case3 value hArray hObject =>
    cases other with
    | nil => exact absurd .nil hOther
    | cons name rest => cases value <;> simp_all [get?]
  | case4 name rest child hChild ih =>
    cases other with
    | nil =>
      cases hScalar
      cases hText
    | cons first others => cases hScalar
  | case6 name rest members child hChild ih =>
    cases h
    cases other with
    | nil =>
      cases hScalar
      cases hText
    | cons first others =>
      obtain ⟨member, hMember, hRest⟩ := Option.bind_eq_some_iff.mp hScalar
      by_cases hName : first = name
      · subst hName
        have hOthers : ¬ SamePlace rest others := fun h => hOther (.cons (.inl rfl) h)
        rw [hMember, Option.getD_some] at ih hChild
        rw [get?, Entries.lookup_insert_self]
        exact ih hChild hOthers hRest
      · rw [get?, Entries.lookup_insert_of_ne hName, hMember]
        exact hRest
  | case9 name rest items position hPosition child hChild ih =>
    cases h
    cases other with
    | nil =>
      cases hScalar
      cases hText
    | cons first others =>
      obtain ⟨index, hIndex, hItem⟩ := Option.bind_eq_some_iff.mp hScalar
      obtain ⟨item, hItem, hRest⟩ := Option.bind_eq_some_iff.mp hItem
      obtain ⟨hName, hLe⟩ := position?_eq_some_iff.mp hPosition
      rw [get?, hIndex, Option.bind_some]
      by_cases hEq : index = position
      · subst hEq
        have hOthers : ¬ SamePlace rest others := fun h =>
          hOther (.cons (.inr ⟨index, hName, hIndex⟩) h)
        rw [hItem, Option.getD_some] at ih hChild
        rw [getElem?_setItem hLe]
        exact ih hChild hOthers hRest
      · rw [getElem?_setItem_of_ne hEq hLe, hItem]
        exact hRest

/-- Where nothing is yet, a put makes an object for each name of its path. -/
theorem depth_overwrite_null {text : String} {path : List String} {changed : Json}
    (h : null.overwrite text path = .ok changed) : changed.depth = path.length := by
  induction path generalizing changed with
  | nil =>
    cases h
    rfl
  | cons name rest ih =>
    rw [overwrite] at h
    split at h
    next child hChild =>
      cases h
      rw [depth, depthOfMembers, depthOfMembers, ih hChild, Nat.max_zero, List.length_cons]
    · cases h

end ConfigStore.Json

namespace ConfigStore

open scoped Decimal

namespace JsonFile

variable {store : JsonFile} {disk : Disk} {file : String}

theorem exists_sound_of_load (h : load disk file = .ok store) :
    ∃ limit, 2 ^ (64 : Nat) ≤ limit ∧ store.document.Sound limit := by
  cases hRead : disk.read file with
  | ok text =>
    refine ⟨max text.length (2 ^ (64 : Nat)), Nat.le_max_right _ _, sound_of_load ?_ h⟩
    rintro other hOther
    cases hRead.symm.trans hOther
    exact Nat.le_max_left _ _
  | error reason =>
    refine ⟨2 ^ (64 : Nat), Nat.le_refl _, sound_of_load ?_ h⟩
    rintro other hOther
    cases hRead.symm.trans hOther

/-- What is loaded from a file that holds a written document. -/
theorem load_eq_ok_iff_of_pretty {document : Json} {limit : Nat} (hSound : document.Sound limit)
    (hRead : disk.read file = .ok document.pretty) :
    load disk file = .ok store ↔
      document.reread? Json.maxDepth = some store.document ∧
        store = { file, document := store.document } := by
  have hDocument : ∀ found, readDocument disk file = .ok found ↔
      document.reread? Json.maxDepth = some found := by
    intro found
    rw [readDocument, hRead, Except.mapError_eq_ok_iff, Json.read_pretty hSound]
  rw [load, Except.map_eq_ok_iff]
  constructor
  · rintro ⟨found, hFound, rfl⟩
    exact ⟨(hDocument found).mp hFound, rfl⟩
  · rintro ⟨hFound, hStore⟩
    exact ⟨store.document, (hDocument _).mpr hFound, hStore.symm⟩

theorem get?_of_put {path value : String} {next : JsonFile × Disk}
    (h : store.put disk path value = .ok next) :
    Json.get? (store.scope.resolve path) next.1.document = some (.string value) := by
  obtain ⟨hSet, -, -⟩ := put_eq_ok_iff.mp h
  rw [Json.set_eq_overwrite] at hSet
  split at hSet
  · cases hSet
  · exact Json.get?_overwrite hSet

end JsonFile

namespace Session

/-- A session with a document, as it was opened or as it was changed by puts. -/
def HoldsDocument (file : String) (session : Session) : Prop :=
  ∃ store, session.store = .json store ∧ store.file = file ∧
    ∃ limit, 2 ^ (64 : Nat) ≤ limit ∧ store.document.Sound limit

variable {file : String} {session : Session}

/-- What a put that succeeds has done to a session with a document. -/
theorem HoldsDocument.put {path value : String} {next : Store × World}
    (h : session.HoldsDocument file)
    (hPut : session.store.put session.world path value = .ok next) :
    HoldsDocument file ⟨next.1, next.2⟩ ∧
      ∃ running, next.1 = .json running ∧
        next.2.disk.read file = .ok running.document.pretty ∧
        Json.get? (running.scope.resolve path) running.document = some (.string value) := by
  obtain ⟨store, hStore, rfl, limit, hLimit, hSound⟩ := h
  rw [hStore, Store.put_json] at hPut
  obtain ⟨⟨changed, disk⟩, hChanged, rfl⟩ := Except.map_eq_ok_iff.mp hPut
  obtain ⟨-, hWrite, hEq⟩ := JsonFile.put_eq_ok_iff.mp hChanged
  have hScope : changed.scope = store.scope := (congrArg JsonFile.scope hEq :)
  have hFile : changed.file = store.file := (congrArg JsonFile.file hEq :)
  refine ⟨⟨changed, rfl, hFile, limit, hLimit, JsonFile.sound_put hLimit hSound hChanged⟩,
    changed, rfl, Disk.read_write hWrite, ?_⟩
  rw [hScope]
  exact JsonFile.get?_of_put hChanged

theorem HoldsDocument.perform (h : session.HoldsDocument file) (operation : Operation) :
    (session.perform operation).2.HoldsDocument file := by
  rcases perform_cases session operation with hSame | ⟨path, value, next, -, hPut, hNext⟩
  · rw [hSame]
    obtain ⟨store, hStore, hFile, hSound⟩ := h
    rw [hStore]
    exact ⟨{ store with scope := operation.rescope store.scope }, rfl, hFile, hSound⟩
  · rw [hNext]
    exact (h.put hPut).1

end Session

namespace JsonFile

/-- After any run, a put that succeeds is found in the document, and in its file if that can be
read. The file holds the same document if and only if that is not nested too deeply and every
double in it is read back. -/
theorem reopening_keeps_iff {world : World} {file : String} {store : JsonFile}
    (hLoad : load world.disk file = .ok store) (operations : List Operation) {after : Session}
    {path value : String}
    (hDone : (Session.run ⟨.json store, world⟩ operations).2.perform (.put path value) =
      (.ok .done, after)) :
    ∃ running, after.store = .json running ∧ running.get? path = some value ∧
      ((∃ reopened, load after.world.disk file = .ok reopened ∧
          reopened.document = running.document) ↔
        running.document.depth ≤ Json.maxDepth ∧
          ∀ d, .double d ∈ running.document.numbers →
            Json.read (Json.Number.double d).text = .ok (.number (.double d))) ∧
      ∀ reopened, load after.world.disk file = .ok reopened →
        { reopened with scope := running.scope }.get? path = some value := by
  have hFile : store.file = file := by
    obtain ⟨document, -, rfl⟩ := Except.map_eq_ok_iff.mp hLoad
    rfl
  have hOpened : Session.HoldsDocument file ⟨.json store, world⟩ :=
    ⟨store, rfl, hFile, exists_sound_of_load hLoad⟩
  have hRun := Session.run_induction (motive := Session.HoldsDocument file)
    (fun session operation h => h.perform operation) hOpened operations
  obtain ⟨next, hPut, rfl⟩ := Session.put_eq_of_done hDone
  obtain ⟨hHolds, running, hRunning, hRead, hGet⟩ := hRun.put hPut
  obtain ⟨current, hCurrent, -, limit, -, hSound⟩ := hHolds
  obtain rfl : current = running := Store.json.inj (hCurrent.symm.trans hRunning)
  refine ⟨current, hCurrent, ?_, ?_, ?_⟩
  · rw [get?, hGet]
    rfl
  · rw [← hSound.reread?_eq_self_iff]
    constructor
    · rintro ⟨reopened, hReopened, hEq⟩
      rw [← hEq] at hSound hRead ⊢
      exact ((load_eq_ok_iff_of_pretty hSound hRead).mp hReopened).1
    · intro hReread
      exact ⟨{ file, document := current.document },
        (load_eq_ok_iff_of_pretty hSound hRead).mpr ⟨hReread, rfl⟩, rfl⟩
  · intro reopened hReopened
    obtain ⟨hReread, -⟩ := (load_eq_ok_iff_of_pretty hSound hRead).mp hReopened
    have hFound := Json.get?_of_reread? hReread hGet
    rw [get?]
    exact congrArg (·.bind Json.scalarText?) hFound

/-- What is opened where there is no file. -/
def fresh : JsonFile := { file := "app.json", document := Json.empty }

/-- A path of one name more than arrays and objects may be nested. -/
def deepPath : String := Path.join defaultSeparator (List.replicate (Json.maxDepth + 1) "a")

theorem put_deepPath :
    ∃ changed disk, fresh.put {} deepPath "v" = .ok (changed, disk) ∧
      changed.document.depth = Json.maxDepth + 1 := by
  have hClean : Path.Clean defaultSeparator (List.replicate (Json.maxDepth + 1) "a") := by
    intro name hName
    rw [List.eq_of_mem_replicate hName]
    decide
  have hPath : fresh.scope.resolve deepPath = "a" :: List.replicate Json.maxDepth "a" := by
    change [] ++ Path.split defaultSeparator deepPath = _
    rw [List.nil_append, deepPath, Path.split_join hClean, List.replicate_succ]
  obtain ⟨child, hChild⟩ : ∃ child,
      Json.null.overwrite "v" (List.replicate Json.maxDepth "a") = .ok child :=
    ⟨_, Node.overwrite_null _ _⟩
  have hSet : fresh.document.set (fresh.scope.resolve deepPath) "v" =
      .ok (.object [("a", child)]) := by
    rw [hPath, Json.set_eq_overwrite, if_neg (List.cons_ne_nil _ _), fresh, Json.empty,
      Json.overwrite, List.lookup_nil, Option.getD_none, hChild]
    rfl
  have hWritable : Disk.Writable {} "app.json" :=
    Disk.writable_of_locate (show Disk.locate {} "app.json" = .ok ["app.json"] by decide)
      (by decide) (by decide) rfl
  obtain ⟨disk, hWrite⟩ := hWritable (Json.object [("a", child)]).pretty
  refine ⟨{ fresh with document := .object [("a", child)] }, disk,
    put_eq_ok_iff.mpr ⟨hSet, hWrite, rfl⟩, ?_⟩
  have hDepth := Json.depth_overwrite_null hChild
  simpa [Json.depth, Json.depthOfMembers] using hDepth

/-- A put at such a path succeeds and leaves a file that cannot be opened as the same document. -/
theorem reopening_fails_deepPath :
    ∃ after, load {} "app.json" = .ok fresh ∧
      (Session.run ⟨.json fresh, {}⟩ []).2.perform (.put deepPath "v") = (.ok .done, after) ∧
      ∃ running, after.store = .json running ∧ running.get? deepPath = some "v" ∧
        ¬ ∃ reopened, load after.world.disk "app.json" = .ok reopened ∧
          reopened.document = running.document := by
  obtain ⟨changed, disk, hPut, hDepth⟩ := put_deepPath
  have hLoad : load {} "app.json" = .ok fresh := rfl
  have hDone : (Session.run ⟨.json fresh, {}⟩ []).2.perform (.put deepPath "v") =
      (.ok .done, ⟨.json changed, { disk }⟩) := by
    have hStore : (Store.json fresh).put {} deepPath "v" = .ok (.json changed, { disk }) := by
      rw [Store.put_json]
      exact congrArg (Except.map _) hPut
    refine (Session.perform_of_written rfl).trans ?_
    exact congrArg (Session.afterPut _) hStore
  obtain ⟨running, hRunning, hGet, hIff, -⟩ := reopening_keeps_iff hLoad [] hDone
  refine ⟨_, hLoad, hDone, running, hRunning, hGet, fun hReopened => ?_⟩
  obtain ⟨hShallow, -⟩ := hIff.mp hReopened
  obtain rfl : changed = running := Store.json.inj hRunning
  omega

end JsonFile

end ConfigStore
