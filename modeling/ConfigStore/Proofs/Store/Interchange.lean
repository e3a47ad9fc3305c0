import ConfigStore.Proofs.Disk
import ConfigStore.Proofs.Ini.Check
import ConfigStore.Proofs.Json.Mirror
import ConfigStore.Proofs.Store.Session

/-!
# Stores in memory and in files

A store in memory, a document and an INI file, all of them new, answer every run alike.

* `Session.MirroredBy`: a document mirrors the tree of a store in memory; every operation keeps
  this (`Session.MirroredBy.perform`).
* `Session.SharedBy`: an INI file holds the tree of a store in memory; every operation keeps this
  as long as it writes what a file can carry (`Session.SharedBy.perform`).
-/

namespace ConfigStore

/-- The same answers, except for the reasons for which paths are invalid. -/
def Answer.Same (first second : Except Error Answer) : Prop :=
  first = second ∨ ∃ reason other,
    first = .error (.invalidPath reason) ∧ second = .error (.invalidPath other)

namespace Session

/-- Operations that write nothing answer alike where the same is read. -/
theorem perform_congr {first second : Session} {operation : Operation}
    (hWritten : operation.written? = none)
    (hGet : ∀ path, first.store.get first.world path = second.store.get second.world path)
    (hSubtree : ∀ path,
      first.store.subtree first.world path = second.store.subtree second.world path)
    (hFlatten : ∀ path,
      first.store.flatten first.world path = second.store.flatten second.world path) :
    (first.perform operation).1 = (second.perform operation).1 := by
  cases operation with
  | setRoot | setSeparator | resetSeparator => rfl
  | put | putInt | putDouble => cases hWritten
  | get path => rw [perform, perform, hGet]
  | getInt path => rw [perform, perform, Store.getInt, Store.getInt, hGet]
  | getInt32 path =>
    rw [perform, perform, Store.getInt32, Store.getInt32, Store.getInt, Store.getInt, hGet]
  | getDouble path => rw [perform, perform, Store.getDouble, Store.getDouble, hGet]
  | has path => rw [perform, perform, Store.has, Store.has, hGet]
  | subtree path => rw [perform, perform, hSubtree]
  | flatten path => rw [perform, perform, hFlatten]

/-! ## Documents -/

/-- The second session keeps, in a file that can be written, the document of the tree that the
first one keeps in memory. -/
def MirroredBy (memory document : Session) : Prop :=
  ∃ held store, memory.store = .memory held ∧ document.store = .json store ∧
    store.scope = held.scope ∧ store.document = held.tree.root.toJson ∧
    held.tree.separator = defaultSeparator ∧ held.tree.root.Filled ∧
    document.world.disk.Writable store.file

end Session

/-- An obstacle is reported alike for a tree and for a document. -/
theorem Node.Obstacle.toError_toJson (obstacle : Node.Obstacle) (path : List String) :
    obstacle.toError defaultSeparator = obstacle.toJson.toError path ∨
      ∃ reason other, obstacle.toError defaultSeparator = .invalidPath reason ∧
        obstacle.toJson.toError path = .invalidPath other := by
  cases obstacle with
  | emptyPath => exact .inr ⟨_, _, rfl, rfl⟩
  | leafAt above => exact .inl rfl
  | branchAt above => exact .inl rfl

theorem Tree.put_root_of_insert {tree changed : Tree} {path : List String} {value : String}
    (h : tree.insert path value = .ok changed) : tree.root.put path value = .ok changed.root := by
  obtain ⟨hPath, hRoot, -⟩ := Tree.insert_eq_ok_iff.mp h
  rw [Node.put_eq_overwrite, if_neg hPath, hRoot]

namespace JsonFile

variable {held : ScopedTree} {store : JsonFile}

theorem get?_mirror (hScope : store.scope = held.scope)
    (hDocument : store.document = held.tree.root.toJson) (path : String) :
    store.get? path = held.get? path := by
  rw [get?, hScope, hDocument, Node.get?_toJson, ScopedTree.get?, Tree.get?]
  cases held.tree.root.get? (held.scope.resolve path) with
  | none => rfl
  | some node => exact node.scalarText?_toJson

/-- The part of a document at and below a path is the part of the tree that it mirrors. -/
theorem subtree_mirror (hScope : store.scope = held.scope)
    (hDocument : store.document = held.tree.root.toJson) (hFilled : held.tree.root.Filled)
    (path : String) : store.subtree path = .ok (held.subtree path) := by
  have hPart := ScopedTree.filled_subtree hFilled path
  rw [subtree, hScope, hDocument, Node.get?_toJson]
  have hValue : ∀ {other value}, (held.subtree path).root.valueAt? other = some value ↔
      other ≠ [] ∧ ∃ rest, other = held.scope.split path ++ rest ∧
        held.tree.root.valueAt? (held.scope.resolve path ++ rest) = some value := by
    intro other value
    rw [ScopedTree.valueAt?_subtree]
    apply and_congr_right
    intro _
    constructor
    · rintro ⟨⟨rest, rfl⟩, h⟩
      refine ⟨rest, rfl, ?_⟩
      rwa [Scope.resolve, List.append_assoc]
    · rintro ⟨rest, rfl, h⟩
      refine ⟨List.prefix_append _ _, ?_⟩
      rwa [Scope.resolve, List.append_assoc] at h
  cases hGet : held.tree.root.get? (held.scope.resolve path) with
  | none =>
    refine congrArg Except.ok (Tree.eq_of_valueAt?_eq (ScopedTree.separator_subtree held path).symm
      Node.filled_empty hPart fun other => ?_)
    rw [Tree.valueAt?_empty]
    refine (Option.eq_none_iff_forall_ne_some.mpr fun value h => ?_).symm
    obtain ⟨-, rest, -, h⟩ := hValue.mp h
    rw [Node.valueAt?_append, hGet] at h
    cases h
  | some node =>
    have hOrdered := Node.ordered_of_get? held.tree.ordered hGet
    rw [← ScopedTree.separator_subtree held path]
    apply Node.collect_toJson hOrdered _ hPart
    intro other value
    simp only [hValue, Node.valueAt?_append, hGet, Option.bind_some]

/-- A put that succeeds in memory succeeds in the file. -/
theorem put_mirror_ok (hScope : store.scope = held.scope)
    (hDocument : store.document = held.tree.root.toJson) {disk : Disk}
    (hWritable : disk.Writable store.file) {path value : String} {tree : Tree}
    (h : held.tree.insert (held.scope.resolve path) value = .ok tree) :
    ∃ next, store.put disk path value =
        .ok ({ store with document := tree.root.toJson }, next) ∧ next.Writable store.file := by
  obtain ⟨next, hNext⟩ := hWritable tree.root.toJson.pretty
  refine ⟨next, ?_, Disk.writable_write hNext⟩
  rw [put_eq, hScope, hDocument, Node.set_toJson, Tree.put_root_of_insert h]
  simp [hNext, pure, Except.pure]

/-- A put that fails in memory fails in the file. -/
theorem put_mirror_error (hScope : store.scope = held.scope)
    (hDocument : store.document = held.tree.root.toJson)
    (hSeparator : held.tree.separator = defaultSeparator) {path value : String} {error : Error}
    (h : held.tree.insert (held.scope.resolve path) value = .error error) (disk : Disk) :
    ∃ other, store.put disk path value = .error other ∧
      (error = other ∨ ∃ reason another, error = .invalidPath reason ∧
        other = .invalidPath another) := by
  obtain ⟨obstacle, hPut, rfl⟩ := Tree.insert_eq_error h
  refine ⟨obstacle.toJson.toError (held.scope.resolve path), ?_, ?_⟩
  · rw [put_eq, hScope, hDocument, Node.set_toJson, hPut]
    rfl
  · rw [hSeparator]
    exact obstacle.toError_toJson _

end JsonFile

namespace Session.MirroredBy

variable {memory document : Session}

theorem withScope (h : memory.MirroredBy document) (scope : Scope) :
    MirroredBy { memory with store := memory.store.withScope scope }
      { document with store := document.store.withScope scope } := by
  obtain ⟨held, store, hMemory, hStore, -, hRest⟩ := h
  exact ⟨{ held with scope }, { store with scope }, by rw [hMemory]; rfl, by rw [hStore]; rfl, rfl,
    hRest⟩

theorem scope_eq (h : memory.MirroredBy document) :
    document.store.scope = memory.store.scope := by
  obtain ⟨held, store, hMemory, hStore, hScope, -⟩ := h
  rw [hMemory, hStore]
  exact hScope

/-- Both sessions answer a put alike, and stay in step. -/
theorem put (h : memory.MirroredBy document) (path value : String) :
    Answer.Same (memory.afterPut (memory.store.put memory.world path value)).1
        (document.afterPut (document.store.put document.world path value)).1 ∧
      MirroredBy (memory.afterPut (memory.store.put memory.world path value)).2
        (document.afterPut (document.store.put document.world path value)).2 := by
  obtain ⟨held, store, hMemory, hStore, hScope, hDocument, hSeparator, hFilled, hWritable⟩ := h
  rw [hMemory, hStore, Store.put_memory, Store.put_json, ScopedTree.put]
  cases hInsert : held.tree.insert (held.scope.resolve path) value with
  | ok tree =>
    obtain ⟨next, hPut, hNext⟩ :=
      JsonFile.put_mirror_ok hScope hDocument hWritable hInsert
    rw [hPut]
    refine ⟨.inl rfl, { held with tree }, _, rfl, rfl, hScope, rfl, ?_, ?_, hNext⟩
    · exact (Tree.separator_insert hInsert).trans hSeparator
    · exact Tree.filled_insert hFilled hInsert
  | error error =>
    obtain ⟨other, hPut, hSame⟩ :=
      JsonFile.put_mirror_error hScope hDocument hSeparator hInsert document.world.disk
    rw [hPut]
    refine ⟨?_, held, store, hMemory, hStore, hScope, hDocument, hSeparator, hFilled, hWritable⟩
    rcases hSame with rfl | ⟨reason, another, rfl, rfl⟩
    · exact .inl rfl
    · exact .inr ⟨reason, another, rfl, rfl⟩

/-- Both sessions answer an operation alike, and stay in step. -/
theorem perform (h : memory.MirroredBy document) (operation : Operation) :
    Answer.Same (memory.perform operation).1 (document.perform operation).1 ∧
      MirroredBy (memory.perform operation).2 (document.perform operation).2 := by
  cases hWritten : operation.written? with
  | some written =>
    rw [perform_of_written hWritten, perform_of_written hWritten]
    exact h.put written.1 written.2
  | none =>
    constructor
    · obtain ⟨held, store, hMemory, hStore, hScope, hDocument, -, hFilled, -⟩ := h
      have hPart := JsonFile.subtree_mirror hScope hDocument hFilled
      refine .inl (perform_congr hWritten ?_ ?_ ?_)
      · intro path
        rw [hMemory, hStore]
        exact congrArg Except.ok (JsonFile.get?_mirror hScope hDocument path).symm
      · intro path
        rw [hMemory, hStore]
        exact (hPart path).symm
      · intro path
        rw [hMemory, hStore]
        exact (congrArg (Except.map Tree.flatten) (hPart path)).symm
    · rw [perform_of_not_written hWritten, perform_of_not_written hWritten, h.scope_eq]
      exact h.withScope _

/-- Both sessions answer every operation of a run alike. -/
theorem run (h : memory.MirroredBy document) (operations : List Operation) :
    List.Forall₂ Answer.Same (memory.run operations).1 (document.run operations).1 := by
  induction operations generalizing memory document with
  | nil => exact .nil
  | cons operation rest ih =>
    obtain ⟨hSame, hNext⟩ := h.perform operation
    exact .cons hSame (ih hNext)

end Session.MirroredBy

/-! ## INI files -/

/-- Every text that the operations write, and every name on the path to it, can stand in an
INI file. -/
def StorablePuts : Scope → List Operation → Prop
  | _, [] => True
  | scope, operation :: rest =>
    (∀ written ∈ operation.written?,
      (∀ name ∈ scope.resolve written.1, Ini.storableName name = true) ∧
        Ini.storableValue written.2 = true) ∧
      StorablePuts (operation.rescope scope) rest

namespace Session

/-- The second session keeps, in a file that can be written, the tree that the first one keeps in
memory. -/
def SharedBy (memory file : Session) : Prop :=
  ∃ held name, memory.store = .memory held ∧ file.store = .ini ⟨name, held⟩ ∧
    file.world.disk.Writable name

namespace SharedBy

variable {memory file : Session}

theorem withScope (h : memory.SharedBy file) (scope : Scope) :
    SharedBy { memory with store := memory.store.withScope scope }
      { file with store := file.store.withScope scope } := by
  obtain ⟨held, name, hMemory, hStore, hWritable⟩ := h
  exact ⟨{ held with scope }, name, by rw [hMemory]; rfl, by rw [hStore]; rfl, hWritable⟩

theorem scope_eq (h : memory.SharedBy file) : file.store.scope = memory.store.scope := by
  obtain ⟨held, name, hMemory, hStore, -⟩ := h
  rw [hMemory, hStore]
  rfl

/-- Both sessions answer a put of what a file can carry alike, and stay in step. -/
theorem put (h : memory.SharedBy file) {path value : String}
    (hCheck : IniFile.check (memory.store.scope.resolve path) value = .ok ()) :
    (file.afterPut (file.store.put file.world path value)).1 =
        (memory.afterPut (memory.store.put memory.world path value)).1 ∧
      SharedBy (memory.afterPut (memory.store.put memory.world path value)).2
        (file.afterPut (file.store.put file.world path value)).2 := by
  obtain ⟨held, name, hMemory, hStore, hWritable⟩ := h
  rw [hMemory] at hCheck
  have hScope : IniFile.check (held.scope.resolve path) value = .ok () := hCheck
  rw [hMemory, hStore, Store.put_memory, Store.put_ini, IniFile.put_eq, hScope, Except.ok_bind]
  cases hPut : held.put path value with
  | ok changed =>
    obtain ⟨next, hNext⟩ := hWritable (Ini.render changed.tree)
    have hWrite := Disk.writable_write hNext
    simp only [Except.ok_bind, hNext, Except.ok_mapError]
    exact ⟨rfl, changed, name, rfl, rfl, hWrite⟩
  | error error => exact ⟨rfl, held, name, hMemory, hStore, hWritable⟩

/-- Both sessions answer an operation alike, and stay in step. -/
theorem perform (h : memory.SharedBy file) {operation : Operation}
    (hCheck : ∀ written ∈ operation.written?,
      IniFile.check (memory.store.scope.resolve written.1) written.2 = .ok ()) :
    (file.perform operation).1 = (memory.perform operation).1 ∧
      SharedBy (memory.perform operation).2 (file.perform operation).2 := by
  cases hWritten : operation.written? with
  | some written =>
    rw [perform_of_written hWritten, perform_of_written hWritten]
    exact h.put (hCheck written hWritten)
  | none =>
    constructor
    · obtain ⟨held, name, hMemory, hStore, -⟩ := h
      refine perform_congr hWritten ?_ ?_ ?_ <;> intro path <;> rw [hMemory, hStore] <;> rfl
    · rw [perform_of_not_written hWritten, perform_of_not_written hWritten, h.scope_eq]
      exact h.withScope _

/-- Both sessions answer every operation of a run alike. -/
theorem run (h : memory.SharedBy file) {operations : List Operation}
    (hPuts : StorablePuts memory.store.scope operations) :
    (file.run operations).1 = (memory.run operations).1 := by
  induction operations generalizing memory file with
  | nil => rfl
  | cons operation rest ih =>
    obtain ⟨hCheck, hRest⟩ := hPuts
    obtain ⟨hSame, hNext⟩ := h.perform fun written hWritten =>
      IniFile.check_eq_ok_iff.mpr (hCheck written hWritten)
    rw [← scope_perform] at hRest
    rw [run_cons, run_cons, hSame, ih hNext hRest]

end SharedBy

/-- A store in memory, a document and an INI file that start without values answer every run
alike, the INI file as long as it can carry what is put. -/
theorem stores_interchangeable {memoryWorld jsonWorld iniWorld : World}
    {jsonName iniName : String} (hJsonMissing : jsonWorld.disk.read jsonName = .error .notFound)
    (hJsonWritable : jsonWorld.disk.Writable jsonName)
    (hIniSuffix : IniFile.hasSuffix iniName = true)
    (hIniMissing : iniWorld.disk.read iniName = .error .notFound)
    (hIniWritable : iniWorld.disk.Writable iniName) (operations : List Operation) :
    ∃ json ini, JsonFile.load jsonWorld.disk jsonName = .ok json ∧
      IniFile.load iniWorld.disk iniName = .ok ini ∧
      List.Forall₂ Answer.Same (run ⟨.memory {}, memoryWorld⟩ operations).1
        (run ⟨.json json, jsonWorld⟩ operations).1 ∧
      (StorablePuts {} operations →
        (run ⟨.ini ini, iniWorld⟩ operations).1 =
          (run ⟨.memory {}, memoryWorld⟩ operations).1) := by
  have hJson : JsonFile.load jsonWorld.disk jsonName =
      .ok { file := jsonName, document := Json.empty } := by
    rw [JsonFile.load, JsonFile.readDocument, hJsonMissing]
    rfl
  have hIni : IniFile.load iniWorld.disk iniName =
      .ok { file := iniName, held := { tree := Tree.empty Ini.separator } } := by
    rw [IniFile.load, if_pos hIniSuffix, IniFile.readTree, hIniMissing]
    rfl
  have hMirrored : MirroredBy ⟨.memory {}, memoryWorld⟩
      ⟨.json { file := jsonName, document := Json.empty }, jsonWorld⟩ :=
    ⟨{}, _, rfl, rfl, rfl, (Node.toJson_branch []).symm, rfl, Node.filled_empty, hJsonWritable⟩
  have hShared : SharedBy ⟨.memory {}, memoryWorld⟩
      ⟨.ini { file := iniName, held := { tree := Tree.empty Ini.separator } }, iniWorld⟩ :=
    ⟨{}, iniName, rfl, rfl, hIniWritable⟩
  exact ⟨_, _, hJson, hIni, hMirrored.run operations, fun hPuts => hShared.run hPuts⟩

theorem stores_interchangeable_app :
    ∃ json ini, JsonFile.load {} "app.json" = .ok json ∧ IniFile.load {} "app.ini" = .ok ini ∧
      List.Forall₂ Answer.Same
        (run ⟨.memory {}, {}⟩ [.put "a/b" "c", .put "a" "d", .subtree "a"]).1
        (run ⟨.json json, {}⟩ [.put "a/b" "c", .put "a" "d", .subtree "a"]).1 ∧
      (run ⟨.ini ini, {}⟩ [.put "a/b" "c", .put "a" "d", .subtree "a"]).1 =
        (run ⟨.memory {}, {}⟩ [.put "a/b" "c", .put "a" "d", .subtree "a"]).1 := by
  have hJson : Disk.Writable {} "app.json" :=
    Disk.writable_of_locate (show Disk.locate {} "app.json" = .ok ["app.json"] by decide)
      (by decide) (by decide) rfl
  have hIni : Disk.Writable {} "app.ini" :=
    Disk.writable_of_locate (show Disk.locate {} "app.ini" = .ok ["app.ini"] by decide)
      (by decide) (by decide) rfl
  have hPuts : StorablePuts {} [.put "a/b" "c", .put "a" "d", .subtree "a"] := by
    refine ⟨?_, ?_, ?_, trivial⟩ <;> rintro written ⟨⟩ <;> decide
  obtain ⟨json, ini, hJsonLoad, hIniLoad, hJsonSame, hIniSame⟩ :=
    @stores_interchangeable {} {} {} "app.json" "app.ini" (by decide) hJson (by decide)
      (by decide) hIni [.put "a/b" "c", .put "a" "d", .subtree "a"]
  exact ⟨json, ini, hJsonLoad, hIniLoad, hJsonSame, hIniSame hPuts⟩

end Session

end ConfigStore
