import ConfigStore.Proofs.Command.Work
import ConfigStore.Proofs.Ini.Reopening
import ConfigStore.Proofs.Text.Utf8
import ConfigStore.Proofs.Tree.Rebuilding

/-!
# Copying between files

Values are copied in the order of their keys, each one by a put that rewrites the whole file.

* `IniFile.run_putAll_append`: values that pass the check and find room are all set.
* `IniFile.run_putAll_missing`: in a file that is missing all values find room.
* `IniFile.copy_into_missing`: what a copy into a missing file leaves there. It ends before the
  first value that is refused.
-/

namespace ConfigStore.IniFile

/-! ## One put after the other -/

variable {loaded tree : Tree} {store : IniFile} {disk : Disk} {path value : String}

/-- The places and values that entries stand for. -/
def placed (scope : Scope) (entries : List (String × String)) : List (List String × String) :=
  entries.map fun entry => (scope.resolve entry.1, entry.2)

open Command in
/-- Values that pass the check and find room are all set, and the work goes on with the rest. -/
theorem run_putAll_append {state : State} {accepted : List (String × String)}
    (rest : List (String × String)) (hTracks : Tracks loaded store state.world.disk)
    (hWritable : state.world.disk.Writable store.file)
    (hCheck : ∀ entry ∈ accepted, check (store.held.scope.resolve entry.1) entry.2 = .ok ())
    (hTree : store.held.tree.insertAll (placed store.held.scope accepted) = .ok tree) :
    ∃ disk, (putAll (.ini store) (accepted ++ rest)).run.run state =
        (putAll (.ini { store with held := { store.held with tree } }) rest).run.run
          { state with world := { state.world with disk } } ∧
      Tracks loaded { store with held := { store.held with tree } } disk := by
  induction accepted generalizing store state with
  | nil =>
    cases hTree
    exact ⟨state.world.disk, rfl, hTracks⟩
  | cons entry others ih =>
    rw [List.forall_mem_cons] at hCheck
    obtain ⟨next, hNext, hOthers⟩ := Tree.insertAll_cons_eq_ok_iff.mp hTree
    obtain ⟨disk, hPut, hWritable⟩ := exists_put hWritable hCheck.1 hNext
    obtain ⟨last, hRun, hLast⟩ := @ih _ { state with world := { state.world with disk } }
      (hTracks.put hPut).2.1 hWritable hCheck.2 hOthers
    refine ⟨last, ?_, hLast⟩
    rw [List.cons_append, run_putAll_cons, Store.put_ini, hPut]
    exact hRun

/-! ## Copies into a missing file -/

/-- The values that entries stand for, for a store that was just opened. -/
theorem placed_default (map : NameMap String) :
    placed {} map.entries = Tree.pathsOf defaultSeparator map := rfl

section

variable (hClean : ∀ place value, tree.root.valueAt? place = some value →
  Path.Clean defaultSeparator place)
include hClean

/-- The key of a value leads back to its place. -/
theorem resolve_key {place : List String} {value : String}
    (hValue : tree.root.valueAt? place = some value) :
    ({} : Scope).resolve (Path.join defaultSeparator place) = place :=
  Path.split_join (hClean place value hValue)

/-- Entries of the map do not get in each other's way. -/
theorem exists_insertAll_placed {accepted : List (String × String)}
    (h : accepted ⊆ (({ tree } : ScopedTree).flatten path).entries) :
    ∃ kept, (Tree.empty defaultSeparator).insertAll (placed {} accepted) = .ok kept ∧
      ∀ place value, kept.root.valueAt? place = some value ↔
        (place, value) ∈ placed {} accepted := by
  have hEntries : ∀ entry ∈ placed {} accepted,
      entry.1 ≠ [] ∧ tree.root.valueAt? entry.1 = some entry.2 := by
    intro entry hEntry
    obtain ⟨⟨key, value⟩, hKey, rfl⟩ := List.mem_map.mp hEntry
    obtain ⟨place, -, hValue, rfl⟩ := (ScopedTree.mem_flatten_iff hClean).mp (h hKey)
    rw [resolve_key hClean hValue]
    refine ⟨?_, hValue⟩
    rintro rfl
    rw [Tree.valueAt?_nil] at hValue
    cases hValue
  obtain ⟨kept, hKept, -, -, hValues⟩ := @Tree.exists_insertAll (tree.root.valueAt? ·)
    (Tree.empty defaultSeparator) (placed {} accepted) (fun _ _ _ _ => Node.not_clashes)
    Node.filled_empty (by simp) hEntries
  refine ⟨kept, hKept, fun place value => ?_⟩
  rw [hValues, Tree.valueAt?_empty]
  simp

/-- The entries in front of another one are the values under smaller keys. -/
theorem mem_placed_front_iff {accepted behind : List (String × String)} {first : String × String}
    (hEntries : (({ tree } : ScopedTree).flatten path).entries = accepted ++ first :: behind)
    {place : List String} {value : String} :
    (place, value) ∈ placed {} accepted ↔
      Path.split defaultSeparator path <+: place ∧ tree.root.valueAt? place = some value ∧
        Path.join defaultSeparator place < first.1 := by
  have hSorted := hEntries ▸ (({ tree } : ScopedTree).flatten path).sorted
  rw [placed, List.mem_map]
  constructor
  · rintro ⟨⟨key, found⟩, hEntry, hEq⟩
    cases hEq
    obtain ⟨hMem, hLess⟩ := (Entries.mem_front_iff hSorted).mp hEntry
    rw [← hEntries] at hMem
    obtain ⟨place, hBelow, hValue, rfl⟩ := (ScopedTree.mem_flatten_iff hClean).mp hMem
    rw [resolve_key hClean hValue]
    exact ⟨hBelow, hValue, hLess⟩
  · rintro ⟨hBelow, hValue, hLess⟩
    have hMem : (Path.join defaultSeparator place, value) ∈
        (({ tree } : ScopedTree).flatten path).entries :=
      (ScopedTree.mem_flatten_iff hClean).mpr ⟨place, hBelow, hValue, rfl⟩
    rw [hEntries] at hMem
    refine ⟨_, (Entries.mem_front_iff hSorted).mpr ⟨hMem, hLess⟩, ?_⟩
    rw [resolve_key hClean hValue]

open Command in
/-- Setting the values of a map in a file that is missing ends with the last value, or with the
first one that is refused. -/
theorem run_putAll_missing {state : State} {file : String} (hFilled : tree.root.Filled)
    (hLoad : load state.world.disk file = .ok { file, held := {} })
    (hWritable : state.world.disk.Writable file) :
    ∃ outcome later kept,
      (putAll (.ini { file, held := {} }) (({ tree } : ScopedTree).flatten path).entries).run.run
          state = (outcome, later) ∧
      load later.world.disk file = .ok { file, held := { tree := kept } } ∧
      ((outcome = .ok () ∧ kept = ({ tree } : ScopedTree).subtree path) ∨
        ∃ accepted first behind error,
          (({ tree } : ScopedTree).flatten path).entries = accepted ++ first :: behind ∧
          outcome = .error error ∧
          check (Path.split defaultSeparator first.1) first.2 = .error error ∧
          (∀ entry ∈ accepted, check (Path.split defaultSeparator entry.1) entry.2 = .ok ()) ∧
          ∀ place value, kept.root.valueAt? place = some value ↔
            (place, value) ∈ placed {} accepted) := by
  obtain ⟨-, hSuffix, hTracks⟩ := tracks_of_load hLoad
  have hReload : ∀ {kept : Tree} {disk : Disk},
      Tracks (Tree.empty defaultSeparator) { file, held := { tree := kept } } disk →
        load disk file = .ok { file, held := { tree := kept } } := by
    intro kept disk hKept
    exact load_eq_ok_iff.mpr ⟨hSuffix, kept, hKept.readTree_eq (by simp), rfl⟩
  rcases Except.check_cases (fun entry => check (Path.split defaultSeparator entry.1) entry.2)
      (({ tree } : ScopedTree).flatten path).entries with
    hAll | ⟨accepted, first, behind, error, hEntries, hAccepted, hFirst⟩
  · have hTree : (Tree.empty defaultSeparator).insertAll
        (placed {} (({ tree } : ScopedTree).flatten path).entries) =
          .ok (({ tree } : ScopedTree).subtree path) := by
      rw [placed_default, ← Tree.ofMap_eq_insertAll]
      exact ScopedTree.ofMap_flatten hClean hFilled
    obtain ⟨disk, hRun, hAfter⟩ := run_putAll_append [] hTracks hWritable hAll hTree
    rw [List.append_nil] at hRun
    exact ⟨.ok (), _, _, hRun, hReload hAfter, .inl ⟨rfl, rfl⟩⟩
  · obtain ⟨kept, hKept, hValues⟩ := exists_insertAll_placed hClean
      (hEntries ▸ List.subset_append_left accepted (first :: behind))
    obtain ⟨disk, hRun, hAfter⟩ :=
      run_putAll_append (first :: behind) hTracks hWritable hAccepted hKept
    have hEnd : (putAll (.ini { file, held := { tree := kept } }) (first :: behind)).run.run
        { state with world := { state.world with disk } } =
          (.error error, { state with world := { state.world with disk } }) := by
      have hPut : IniFile.put { file, held := { tree := kept } } disk first.1 first.2 =
          .error error := put_of_check_error hFirst
      rw [run_putAll_cons, Store.put_ini, hPut]
      rfl
    exact ⟨.error error, _, kept, (hEntries ▸ hRun).trans hEnd, hReload hAfter, .inr
      ⟨accepted, first, behind, error, hEntries, rfl, hFirst, hAccepted, hValues⟩⟩

end

/-- Copying from a file that can be read into a file that is missing and can be written. Either
every value at and below the path is copied, or the copy ends with the first value, in the order of
the bytes of the keys, that a put refuses, and all values in front of it are kept. -/
theorem copy_into_missing {arguments : Arguments} {world : World}
    {source destination path sourceFile destinationFile text : String} {tree : Tree}
    (hCommand : arguments.command = .copy source destination path)
    (hSeparator : arguments.separator = defaultSeparator)
    (hSource : Registry.NamesIniFile source sourceFile)
    (hText : world.disk.read sourceFile = .ok text) (hRead : Ini.read text = .ok tree)
    (hDestination : Registry.NamesIniFile destination destinationFile)
    (hMissing : world.disk.read destinationFile = .error .notFound)
    (hWritable : world.disk.Writable destinationFile) :
    ∃ opened reopened,
      Registry.standard.openStore world source = .ok (.ini opened) ∧ opened.held = { tree } ∧
      Registry.standard.openStore (arguments.run world).2 destination = .ok (.ini reopened) ∧
      (((arguments.run world).1.outcome = .ok (.copied
            (tree.root.leaves.countP fun leaf => Path.split defaultSeparator path <+: leaf.1)) ∧
          (Store.ini reopened).subtree (arguments.run world).2 "" =
            (Store.ini opened).subtree world path) ∨
        ∃ reason, ∃ first ∈ (opened.held.flatten path).entries,
          (arguments.run world).1.outcome = .error (.store (.invalidPath reason)) ∧
          check (Path.split defaultSeparator first.1) first.2 = .error (.invalidPath reason) ∧
          (∀ entry ∈ (opened.held.flatten path).entries,
            Utf8.encode entry.1.toList < Utf8.encode first.1.toList →
              check (Path.split defaultSeparator entry.1) entry.2 = .ok ()) ∧
          ∀ place value, reopened.held.tree.root.valueAt? place = some value ↔
            Path.split defaultSeparator path <+: place ∧
              tree.root.valueAt? place = some value ∧
              Utf8.encode (Path.join defaultSeparator place).toList <
                Utf8.encode first.1.toList) := by
  obtain ⟨hFits, hFilled, hTreeSeparator⟩ := Ini.sound_of_read hRead
  have hClean : ∀ place value, tree.root.valueAt? place = some value →
      Path.Clean defaultSeparator place :=
    fun place value hValue => (hFits place value hValue).clean
  have hOpen : load world.disk sourceFile = .ok { file := sourceFile, held := { tree } } :=
    load_of_read hSource.2 hText hRead
  have hTarget : load world.disk destinationFile = .ok { file := destinationFile, held := {} } :=
    load_of_missing hDestination.2 hMissing
  have hOpened : Registry.standard.openStore world source =
      .ok (.ini { file := sourceFile, held := { tree } }) := by
    rw [Registry.openStore_file hSource, hOpen, Except.ok_map]
  have hFlatten : ((Store.ini { file := sourceFile, held := { tree } }).setSeparator
      arguments.separator).flatten world path = .ok (({ tree } : ScopedTree).flatten path) := by
    rw [hSeparator]
    rfl
  obtain ⟨log, outcome, later, hPuts, hOutcome, hWorld⟩ :=
    Arguments.run_copy hCommand hOpened
      (by rw [Registry.openStore_file hDestination, hTarget, Except.ok_map]) hFlatten
  obtain ⟨ended, last, kept, hRun, hReload, hCases⟩ :=
    @run_putAll_missing tree path hClean { world, log } destinationFile hFilled hTarget hWritable
  rw [hSeparator] at hPuts
  obtain ⟨rfl, rfl⟩ := Prod.mk.inj (hRun.symm.trans hPuts)
  refine ⟨_, { file := destinationFile, held := { tree := kept } }, hOpened, rfl, ?_, ?_⟩
  · rw [hWorld, Registry.openStore_file hDestination, hReload, Except.ok_map]
  rw [hOutcome]
  rcases hCases with ⟨rfl, rfl⟩ | ⟨accepted, first, behind, error, hEntries, rfl, hFirst,
    hAccepted, hValues⟩
  · refine .inl ⟨?_, congrArg Except.ok (ScopedTree.subtree_top ?_ ?_)⟩
    · rw [ScopedTree.size_flatten hClean]
      rfl
    · exact ScopedTree.filled_subtree hFilled path
    · exact ScopedTree.separator_subtree _ _
  · obtain ⟨reason, rfl⟩ := exists_invalidPath hFirst
    have hSorted := hEntries ▸ (({ tree } : ScopedTree).flatten path).sorted
    simp only [Utf8.encode_lt_encode_iff]
    refine .inr ⟨reason, first, ?_, rfl, hFirst, fun entry hEntry hLess => ?_,
      fun place value => ?_⟩
    · rw [hEntries]
      exact List.mem_append_right _ List.mem_cons_self
    · exact hAccepted entry ((Entries.mem_front_iff hSorted).mpr ⟨hEntries ▸ hEntry, hLess⟩)
    · rw [hValues, mem_placed_front_iff hClean hEntries]

/-- An INI file in which a name begins like a comment. -/
def mixedText : String := "a = 1\nb/;c = 2\nd = 3\n"

def mixed : World := { disk := { entries := [(["a.ini"], .text mixedText)] } }

/-- Copy what is at and below a path to a new file. -/
def copying (path : String) : Arguments :=
  { command := .copy "file:///a.ini" "file:///b.ini" path, separator := '/', verbose := false }

theorem namesIniFile_mixed :
    Registry.NamesIniFile "file:///a.ini" "/a.ini" ∧
      Registry.NamesIniFile "file:///b.ini" "/b.ini" := by
  refine ⟨⟨⟨⟨"file", "", none, "/a.ini"⟩, ?_, rfl, rfl⟩, by decide +kernel⟩,
    ⟨⟨⟨"file", "", none, "/b.ini"⟩, ?_, rfl, rfl⟩, by decide +kernel⟩⟩
  · exact Except.toOption_eq_some_iff.mp (by decide +kernel)
  · exact Except.toOption_eq_some_iff.mp (by decide +kernel)

/-- The value behind the one that is refused is not copied, unless it is copied alone. -/
theorem copy_into_missing_mixed :
    (∃ reopened,
      Registry.standard.openStore ((copying "").run mixed).2 "file:///b.ini" =
          .ok (.ini reopened) ∧
        reopened.held.tree.root.valueAt? ["a"] = some "1" ∧
        reopened.held.tree.root.valueAt? ["d"] = none) ∧
      ((copying "d").run mixed).1.outcome = .ok (.copied 1) := by
  obtain ⟨hSource, hDestination⟩ := namesIniFile_mixed
  have hText : mixed.disk.read "/a.ini" = .ok mixedText := by decide +kernel
  have hMissing : mixed.disk.read "/b.ini" = .error .notFound := by decide +kernel
  have hPlace : mixed.disk.locate "/b.ini" = .ok ["b.ini"] := by decide +kernel
  have hWritable : mixed.disk.Writable "/b.ini" :=
    Disk.writable_of_locate hPlace (by decide +kernel) (by decide +kernel) rfl
  have hCommand : ∀ path,
      (copying path).command = .copy "file:///a.ini" "file:///b.ini" path := fun _ => rfl
  have hParsed : (Ini.read mixedText).toOption.map (fun tree =>
      (tree.root.leaves, (({ tree } : ScopedTree).flatten "").entries,
        (({ tree } : ScopedTree).flatten "d").entries)) =
      some ([(["a"], "1"), (["b", ";c"], "2"), (["d"], "3")],
        [("a", "1"), ("b/;c", "2"), ("d", "3")], [("d", "3")]) := by decide +kernel
  obtain ⟨tree, hTree, hEq⟩ := Option.map_eq_some_iff.mp hParsed
  obtain ⟨hLeaves, hEq⟩ := Prod.mk.inj hEq
  obtain ⟨hAll, hOne⟩ := Prod.mk.inj hEq
  have hRead := Except.toOption_eq_some_iff.mp hTree
  have hStored : ∀ key value, (∀ name ∈ Path.split '/' key, Ini.storableName name = true) ∧
      Ini.storableValue value = true → check (Path.split '/' key) value = .ok () :=
    fun _ _ => check_eq_ok_iff.mpr
  constructor
  · obtain ⟨opened, reopened, -, hHeld, hReopened, hCases⟩ := copy_into_missing (hCommand "") rfl
      hSource hText hRead hDestination hMissing hWritable
    refine ⟨reopened, hReopened, ?_⟩
    rcases hCases with ⟨hOutcome, -⟩ | ⟨reason, first, hFirst, -, hRefused, -, hValues⟩
    · have hFails : ((copying "").run mixed).1.outcome.toOption = none := by decide +kernel
      rw [hOutcome] at hFails
      cases hFails
    · have hKey : first = ("b/;c", "2") := by
        rw [hHeld, hAll] at hFirst
        simp only [List.mem_cons, List.not_mem_nil, or_false] at hFirst
        rcases hFirst with rfl | rfl | rfl
        · cases hRefused.symm.trans (hStored "a" "1" (by decide +kernel))
        · rfl
        · cases hRefused.symm.trans (hStored "d" "3" (by decide +kernel))
      rw [hKey] at hValues
      refine ⟨(hValues ["a"] "1").mpr ⟨List.nil_prefix, ?_, by decide +kernel⟩,
        Option.eq_none_iff_forall_ne_some.mpr fun value hValue => ?_⟩
      · exact (Node.mem_leaves_iff tree.ordered).mp (by rw [hLeaves]; exact List.mem_cons_self)
      · exact absurd ((hValues ["d"] value).mp hValue).2.2 (by decide +kernel)
  · obtain ⟨opened, reopened, -, hHeld, -, hCases⟩ := copy_into_missing (hCommand "d") rfl
      hSource hText hRead hDestination hMissing hWritable
    rcases hCases with ⟨hOutcome, -⟩ | ⟨reason, first, hFirst, -, hRefused, -⟩
    · rw [hOutcome, hLeaves]
      decide +kernel
    · rw [hHeld, hOne, List.mem_singleton] at hFirst
      rw [hFirst] at hRefused
      cases hRefused.symm.trans (hStored "d" "3" (by decide +kernel))

end ConfigStore.IniFile
