import ConfigStore.Proofs.Disk
import ConfigStore.Proofs.Ini.Rewriting
import ConfigStore.Proofs.Store.Staging

/-!
# What the check before a put is good for

* `IniFile.put_eq_ok_iff`: what a put that succeeds has found and done. `IniFile.exists_put` and
  `IniFile.put_of_check_error` say when one succeeds and when one is refused.
* `IniFile.fits_of_check` and `IniFile.rereadable_of_check`: what passes the check can be written
  to a line and is read from it again.
-/

namespace ConfigStore

namespace Ini

/-- What a storable name consists of. -/
theorem storableName_iff {name : String} :
    storableName name = true ↔
      (∀ c ∈ name.toList, reserved c = false) ∧ name.toList.head? ≠ some ';' ∧
        name.toList.head? ≠ some '#' ∧ Text.trimChars name.toList = name.toList := by
  simp [storableName, and_assoc]

theorem storableValue_iff {value : String} :
    storableValue value = true ↔
      (∀ c ∈ value.toList, isLineEnd c = false) ∧
        Text.trimChars value.toList = value.toList := by
  simp [storableValue]

theorem notMem_of_storableName {name : String} (h : storableName name = true) {c : Char}
    (hc : reserved c = true) : c ∉ name.toList := by
  intro hMem
  rw [(storableName_iff.mp h).1 c hMem] at hc
  cases hc

/-- The line of a storable name begins like an entry. -/
theorem beginsEntry_of_storableName {name : String} (h : storableName name = true)
    (hNe : name ≠ "") : beginsEntry name = true := by
  obtain ⟨hReserved, hSemicolon, hHash, hTrim⟩ := storableName_iff.mp h
  rw [beginsEntry, hTrim]
  cases hText : name.toList with
  | nil => exact absurd (String.toList_eq_nil_iff.mp hText) hNe
  | cons c rest =>
    have hBracket : c ≠ '[' := by
      rintro rfl
      exact absurd (hReserved '[' (by rw [hText]; exact List.mem_cons_self)) (by decide)
    rw [hText, List.head?_cons] at hSemicolon hHash
    simp_all

end Ini

namespace IniFile

/-! ## The check -/

theorem check_eq_ok_iff {path : List String} {value : String} :
    check path value = .ok () ↔
      (∀ name ∈ path, Ini.storableName name = true) ∧ Ini.storableValue value = true := by
  rw [check]
  cases hFind : path.find? (!Ini.storableName ·) with
  | some name =>
    have hNot := List.find?_some hFind
    have hMem := List.mem_of_find?_eq_some hFind
    simp only [reduceCtorEq, false_iff, not_and]
    intro hAll
    rw [hAll name hMem] at hNot
    cases hNot
  | none =>
    have hAll : ∀ name ∈ path, Ini.storableName name = true := by
      simpa using List.find?_eq_none.mp hFind
    rw [and_iff_right hAll]
    split <;> simp_all

variable {path : List String} {value : String}

/-- The check only fails for what lines cannot carry. -/
theorem exists_invalidPath {error : Error} (h : check path value = .error error) :
    ∃ reason, error = .invalidPath reason := by
  rw [check] at h
  split at h
  · cases h
    exact ⟨_, rfl⟩
  · split at h
    · cases h
    · cases h
      exact ⟨_, rfl⟩

theorem fits_of_check (hNe : ∀ name ∈ path, name ≠ "") (h : check path value = .ok ()) :
    Ini.Fits path value := by
  obtain ⟨hNames, hValue⟩ := check_eq_ok_iff.mp h
  obtain ⟨hLineEnd, hTrim⟩ := Ini.storableValue_iff.mp hValue
  refine ⟨fun name hName => ⟨hNe name hName, ?_⟩, fun name hName => ?_, fun name hName => ?_, ?_,
    hTrim⟩
  · exact Ini.notMem_of_storableName (hNames name hName) (by decide)
  · exact Ini.notMem_of_storableName (hNames name hName) (by decide)
  · exact Ini.notMem_of_storableName (hNames name (List.mem_of_getLast? hName)) (by decide)
  · exact fun hMem => absurd (hLineEnd _ hMem) (by decide)

theorem rereadable_of_check (hPath : path ≠ []) (hNe : ∀ name ∈ path, name ≠ "")
    (h : check path value = .ok ()) : Ini.rereadable path = true := by
  obtain ⟨hNames, -⟩ := check_eq_ok_iff.mp h
  obtain ⟨above, name, rfl⟩ := (List.eq_nil_or_concat path).resolve_left hPath
  rw [List.concat_eq_append] at hNames hNe ⊢
  have hLast : name ∈ above ++ [name] := by simp
  refine Ini.rereadable_concat_iff.mpr ⟨?_, ?_, ?_⟩
  · apply Text.trimChars_join (by decide)
    intro other hOther
    exact (Ini.storableName_iff.mp (hNames other (List.mem_append_left _ hOther))).2.2.2
  · exact (Ini.storableName_iff.mp (hNames name hLast)).2.2.2
  · exact Ini.beginsEntry_of_storableName (hNames name hLast) (hNe name hLast)

/-! ## Loading and putting -/

theorem load_eq_ok_iff {disk : Disk} {file : String} {store : IniFile} :
    load disk file = .ok store ↔
      hasSuffix file = true ∧ ∃ tree, readTree disk file = .ok tree ∧
        { file, held := { tree } } = store := by
  rw [load]
  split
  next hSuffix => rw [Except.map_eq_ok_iff, and_iff_right hSuffix]
  next hSuffix => simp [hSuffix]

/-- A file is opened with the tree that is read from it. -/
theorem exists_load_iff {disk : Disk} {file : String} (hSuffix : hasSuffix file = true)
    (P : Tree → Prop) :
    (∃ store, load disk file = .ok store ∧ P store.held.tree) ↔
      ∃ tree, readTree disk file = .ok tree ∧ P tree := by
  constructor
  · rintro ⟨store, hStore, h⟩
    obtain ⟨-, tree, hTree, rfl⟩ := load_eq_ok_iff.mp hStore
    exact ⟨tree, hTree, h⟩
  · rintro ⟨tree, hTree, h⟩
    exact ⟨_, load_eq_ok_iff.mpr ⟨hSuffix, tree, hTree, rfl⟩, h⟩

theorem readTree_of_read {disk : Disk} {file text : String} (h : disk.read file = .ok text) :
    readTree disk file = (Ini.read text).mapError (·.toError file) := by
  rw [readTree, h]

theorem load_of_read {disk : Disk} {file text : String} {tree : Tree}
    (hSuffix : hasSuffix file = true) (hText : disk.read file = .ok text)
    (hRead : Ini.read text = .ok tree) :
    load disk file = .ok { file, held := { tree } } :=
  load_eq_ok_iff.mpr ⟨hSuffix, tree, by rw [readTree_of_read hText, hRead]; rfl, rfl⟩

theorem load_of_missing {disk : Disk} {file : String} (hSuffix : hasSuffix file = true)
    (hMissing : disk.read file = .error .notFound) : load disk file = .ok { file, held := {} } :=
  load_eq_ok_iff.mpr ⟨hSuffix, Tree.empty Ini.separator, by rw [readTree, hMissing], rfl⟩

theorem put_eq_ok_iff {store changed : IniFile} {disk next : Disk} {path value : String} :
    store.put disk path value = .ok (changed, next) ↔
      check (store.held.scope.resolve path) value = .ok () ∧
        ∃ tree, store.held.tree.insert (store.held.scope.resolve path) value = .ok tree ∧
          disk.write store.file (Ini.render tree) = .ok next ∧
          changed = { store with held := { store.held with tree } } := by
  rw [put_eq, Except.bind_eq_ok_iff]
  constructor
  · rintro ⟨⟨⟩, hCheck, h⟩
    obtain ⟨held, hHeld, h⟩ := Except.bind_eq_ok_iff.mp h
    obtain ⟨tree, hTree, rfl⟩ := Except.map_eq_ok_iff.mp hHeld
    obtain ⟨written, hWrite, h⟩ := Except.bind_eq_ok_iff.mp h
    cases h
    exact ⟨hCheck, tree, hTree, Except.mapError_eq_ok_iff.mp hWrite, rfl⟩
  · rintro ⟨hCheck, tree, hTree, hWrite, rfl⟩
    refine ⟨(), hCheck, Except.bind_eq_ok_iff.mpr
      ⟨_, Except.map_eq_ok_iff.mpr ⟨tree, hTree, rfl⟩, Except.bind_eq_ok_iff.mpr ⟨next, ?_, rfl⟩⟩⟩
    exact Except.mapError_eq_ok_iff.mpr hWrite

theorem put_of_check_error {store : IniFile} {disk : Disk} {path value : String} {error : Error}
    (h : check (store.held.scope.resolve path) value = .error error) :
    store.put disk path value = .error error := by
  rw [put_eq, h]
  rfl

/-- What passes the check and finds room is set in a file that can be written. -/
theorem exists_put {store : IniFile} {disk : Disk} {path value : String} {tree : Tree}
    (hWritable : disk.Writable store.file)
    (hCheck : check (store.held.scope.resolve path) value = .ok ())
    (hInsert : store.held.tree.insert (store.held.scope.resolve path) value = .ok tree) :
    ∃ next,
      store.put disk path value = .ok ({ store with held := { store.held with tree } }, next) ∧
        next.Writable store.file := by
  obtain ⟨next, hWrite⟩ := hWritable (Ini.render tree)
  exact ⟨next, put_eq_ok_iff.mpr ⟨hCheck, tree, hInsert, hWrite, rfl⟩, Disk.writable_write hWrite⟩

end IniFile

end ConfigStore
