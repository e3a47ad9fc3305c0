import ConfigStore.Proofs.Store.Documents
import Mathlib.Logic.Function.Basic

/-!
# Stores that share a file

Several stores are opened from one file (`Shared.Opened`) and put values in turn.

* `Shared.perform_cases`: a put changes nothing, or its own store and the file.
* `Shared.stores_run`: each store ends as if it had been alone with its own puts.
* `Shared.lastWriter?` is the store whose put succeeds last. The file holds its document
  (`Shared.read_run`), so that what another store has put is lost unless it is in this document as
  well (`Shared.lastWriter_keeps`).
-/

namespace ConfigStore

/-- Stores that are used in turn in one world. -/
structure Shared (ι : Type) where
  stores : ι → Store
  world : World

/-- A put by one of several stores. -/
structure SharedPut (ι : Type) where
  client : ι
  path : String
  value : String

namespace Shared

variable {ι : Type}

/-- Every store keeps a document of this kind in the file. -/
def KeptIn (kind : DocumentKind) (file : String) (shared : Shared ι) : Prop :=
  ∀ client, (shared.stores client).KeptIn kind file

/-- The place that a put is for. -/
def place (shared : Shared ι) (put : SharedPut ι) : List String :=
  (shared.stores put.client).scope.resolve put.path

/-- Every store was loaded from the file at some time, and has been used in whatever way since. -/
def Opened (kind : DocumentKind) (file : String) (loaded : ι → Store) (shared : Shared ι) : Prop :=
  ∀ client, ∃ world operations, kind.load world.disk file = .ok (loaded client) ∧
    (Session.run ⟨loaded client, world⟩ operations).2.store = shared.stores client

/-- What holds of each of these stores is known from what it has loaded. -/
def Tracks (kind : DocumentKind) (file : String) (loaded : ι → Store) (shared : Shared ι) : Prop :=
  ∀ client, kind.Tracks file (loaded client) (shared.stores client)

theorem Opened.tracks {kind : DocumentKind} {file : String} {loaded : ι → Store}
    {shared : Shared ι} (h : shared.Opened kind file loaded) :
    shared.Tracks kind file loaded := by
  intro client
  obtain ⟨world, operations, hLoad, hStore⟩ := h client
  rw [← hStore]
  exact DocumentKind.tracks_run hLoad operations

theorem Tracks.keptIn {kind : DocumentKind} {file : String} {loaded : ι → Store}
    {shared : Shared ι} (h : shared.Tracks kind file loaded) : shared.KeptIn kind file :=
  fun client => (h client).keptIn

variable [DecidableEq ι]

/-- Carry out a put. -/
def perform (shared : Shared ι) (put : SharedPut ι) : Except Error Answer × Shared ι :=
  let answered := Session.perform ⟨shared.stores put.client, shared.world⟩ (.put put.path put.value)
  (answered.1, ⟨Function.update shared.stores put.client answered.2.store, answered.2.world⟩)

/-- Carry out puts one after the other. -/
def run (shared : Shared ι) : List (SharedPut ι) → Shared ι
  | [] => shared
  | put :: rest => (shared.perform put).2.run rest

/-- The client whose put succeeds last. -/
def lastWriter? (shared : Shared ι) : List (SharedPut ι) → Option ι
  | [] => none
  | put :: rest =>
    ((shared.perform put).2.lastWriter? rest).or
      ((shared.perform put).1.toOption.map fun _ => put.client)

variable {kind : DocumentKind} {file : String} {shared : Shared ι}

/-- What a put that succeeds has done: its store has taken the value and was written, and the other
stores are as they were. -/
structure Written (file : String) (shared : Shared ι) (put : SharedPut ι) (prepared : Store)
    (disk : Disk) : Prop where
  prepared_eq : (shared.stores put.client).prepared? put.path put.value = some prepared
  exists_text : ∃ text, prepared.rendering? = some text ∧
    shared.world.disk.write file text = .ok disk
  answer_eq : (shared.perform put).1 = .ok .done
  own_eq : (shared.perform put).2.stores put.client = prepared
  other_eq : ∀ client, client ≠ put.client →
    (shared.perform put).2.stores client = shared.stores client
  world_eq : (shared.perform put).2.world = { shared.world with disk }

theorem perform_of_ok {put : SharedPut ι} {next : Store × World}
    (h : (shared.stores put.client).put shared.world put.path put.value = .ok next) :
    shared.perform put =
      (.ok .done, ⟨Function.update shared.stores put.client next.1, next.2⟩) := by
  have hAnswered : Session.perform ⟨shared.stores put.client, shared.world⟩
      (.put put.path put.value) = Session.afterPut _ _ := Session.perform_of_written rfl
  rw [perform, hAnswered, h]
  rfl

theorem perform_of_error {put : SharedPut ι} {error : Error}
    (h : (shared.stores put.client).put shared.world put.path put.value = .error error) :
    shared.perform put = (.error error, shared) := by
  have hAnswered : Session.perform ⟨shared.stores put.client, shared.world⟩
      (.put put.path put.value) = Session.afterPut _ _ := Session.perform_of_written rfl
  rw [perform, hAnswered, h]
  exact congrArg (fun stores => (Except.error error, (⟨stores, shared.world⟩ : Shared ι)))
    (Function.update_eq_self _ _)

theorem written_of_put (h : shared.KeptIn kind file) {put : SharedPut ι} {next : Store × World}
    (hPut : (shared.stores put.client).put shared.world put.path put.value = .ok next) :
    ∃ disk, shared.Written file put next.1 disk := by
  obtain ⟨hPrepared, text, disk, hText, hWrite, hWorld⟩ :=
    (Store.put_eq_ok_iff (h put.client)).mp hPut
  have hPerform := perform_of_ok hPut
  exact ⟨disk, {
    prepared_eq := hPrepared
    exists_text := ⟨text, hText, hWrite⟩
    answer_eq := congrArg Prod.fst hPerform
    own_eq := by rw [hPerform]; exact Function.update_self _ _ _
    other_eq := fun client hClient => Function.update_of_ne hClient _ _
    world_eq := by rw [hPerform]; exact hWorld }⟩

/-- A put fails and changes nothing, or it succeeds. -/
theorem perform_cases (h : shared.KeptIn kind file) (put : SharedPut ι) :
    (∃ error, shared.perform put = (.error error, shared)) ∨
      ∃ prepared disk, shared.Written file put prepared disk := by
  cases hPut : (shared.stores put.client).put shared.world put.path put.value with
  | ok next => exact .inr ⟨next.1, written_of_put h hPut⟩
  | error error => exact .inl ⟨error, perform_of_error hPut⟩

theorem Written.put_eq {put : SharedPut ι} {prepared : Store} {disk : Disk}
    (hWritten : shared.Written file put prepared disk) (h : shared.KeptIn kind file) :
    (shared.stores put.client).put shared.world put.path put.value =
      .ok (prepared, { shared.world with disk }) := by
  obtain ⟨text, hText, hWrite⟩ := hWritten.exists_text
  exact (Store.put_eq_ok_iff (h put.client)).mpr
    ⟨hWritten.prepared_eq, text, disk, hText, hWrite, rfl⟩

theorem keptIn_perform (h : shared.KeptIn kind file) (put : SharedPut ι) :
    (shared.perform put).2.KeptIn kind file ∧
      ∀ client, ((shared.perform put).2.stores client).scope = (shared.stores client).scope := by
  rcases perform_cases h put with ⟨error, hPerform⟩ | ⟨prepared, disk, hWritten⟩
  · rw [hPerform]
    exact ⟨h, fun _ => rfl⟩
  · obtain ⟨hKept, hScope⟩ := Store.keptIn_prepared (h put.client) hWritten.prepared_eq
    rw [KeptIn, ← forall_and]
    intro client
    by_cases hClient : client = put.client
    · rw [hClient, hWritten.own_eq]
      exact ⟨hKept, hScope⟩
    · rw [hWritten.other_eq client hClient]
      exact ⟨h client, rfl⟩

theorem keptIn_run (h : shared.KeptIn kind file) (puts : List (SharedPut ι)) :
    (shared.run puts).KeptIn kind file ∧
      ∀ client, ((shared.run puts).stores client).scope = (shared.stores client).scope := by
  induction puts generalizing shared with
  | nil => exact ⟨h, fun _ => rfl⟩
  | cons put rest ih =>
    obtain ⟨hKept, hScope⟩ := keptIn_perform h put
    obtain ⟨hLast, hScopes⟩ := ih hKept
    exact ⟨hLast, fun client => (hScopes client).trans (hScope client)⟩

theorem Tracks.perform {loaded : ι → Store} (h : shared.Tracks kind file loaded)
    (put : SharedPut ι) : (shared.perform put).2.Tracks kind file loaded := by
  rcases perform_cases h.keptIn put with ⟨error, hPerform⟩ | ⟨prepared, disk, hWritten⟩
  · rw [hPerform]
    exact h
  · intro client
    by_cases hClient : client = put.client
    · rw [hClient, hWritten.own_eq]
      exact (h put.client).put (hWritten.put_eq h.keptIn)
    · rw [hWritten.other_eq client hClient]
      exact h client

theorem Tracks.run {loaded : ι → Store} (h : shared.Tracks kind file loaded)
    (puts : List (SharedPut ι)) : (shared.run puts).Tracks kind file loaded := by
  induction puts generalizing shared with
  | nil => exact h
  | cons put rest ih => exact ih (h.perform put)

theorem run_append (shared : Shared ι) (puts more : List (SharedPut ι)) :
    shared.run (puts ++ more) = (shared.run puts).run more := by
  induction puts generalizing shared with
  | nil => rfl
  | cons put rest ih => exact ih _

theorem lastWriter?_append (shared : Shared ι) (puts more : List (SharedPut ι)) :
    shared.lastWriter? (puts ++ more) =
      ((shared.run puts).lastWriter? more).or (shared.lastWriter? puts) := by
  induction puts generalizing shared with
  | nil => rw [List.nil_append, run, lastWriter?, Option.or_none]
  | cons put rest ih => rw [List.cons_append, lastWriter?, ih, run, lastWriter?, Option.or_assoc]

/-- If no put succeeds, nothing changes. -/
theorem run_of_lastWriter?_eq_none (h : shared.KeptIn kind file) {puts : List (SharedPut ι)}
    (hNone : shared.lastWriter? puts = none) : shared.run puts = shared := by
  induction puts with
  | nil => rfl
  | cons put rest ih =>
    rw [lastWriter?, Option.or_eq_none_iff] at hNone
    rcases perform_cases h put with ⟨error, hPerform⟩ | ⟨prepared, disk, hWritten⟩
    · rw [hPerform] at hNone
      rw [run, hPerform]
      exact ih hNone.1
    · rw [hWritten.answer_eq] at hNone
      cases hNone.2

/-- The file holds the document of the store that was written last, and nothing else. -/
theorem read_run (h : shared.KeptIn kind file) {puts : List (SharedPut ι)} {writer : ι}
    (hWriter : shared.lastWriter? puts = some writer) :
    ∃ text, ((shared.run puts).stores writer).rendering? = some text ∧
      (shared.run puts).world.disk.read file = .ok text := by
  induction puts generalizing shared with
  | nil => cases hWriter
  | cons put rest ih =>
    have hKept := (keptIn_perform h put).1
    rw [lastWriter?] at hWriter
    rcases Option.or_eq_some_iff.mp hWriter with hLater | ⟨hNone, hHere⟩
    · exact ih hKept hLater
    · rw [run, run_of_lastWriter?_eq_none hKept hNone]
      rcases perform_cases h put with ⟨error, hPerform⟩ | ⟨prepared, disk, hWritten⟩
      · rw [hPerform] at hHere
        cases hHere
      · rw [hWritten.answer_eq] at hHere
        obtain rfl : put.client = writer := Option.some.inj hHere
        obtain ⟨text, hText, hWrite⟩ := hWritten.exists_text
        rw [hWritten.own_eq, hWritten.world_eq]
        exact ⟨text, hText, Disk.read_write hWrite⟩

/-- A string that a store holds stays until the store itself puts another one in its place. -/
theorem holds_run (h : shared.KeptIn kind file) {client : ι} {puts : List (SharedPut ι)}
    {place : List String} {text : String} (hText : (shared.stores client).Holds place text)
    (hOther : ∀ put ∈ puts, put.client = client → ¬ kind.SamePlace (shared.place put) place) :
    ((shared.run puts).stores client).Holds place text := by
  induction puts generalizing shared with
  | nil => exact hText
  | cons put rest ih =>
    rw [List.forall_mem_cons] at hOther
    obtain ⟨hKept, hScope⟩ := keptIn_perform h put
    refine ih hKept ?_ fun later hLater hClient => ?_
    · rcases perform_cases h put with ⟨error, hPerform⟩ | ⟨prepared, disk, hWritten⟩
      · rw [hPerform]
        exact hText
      · by_cases hClient : client = put.client
        · subst hClient
          rw [hWritten.own_eq]
          exact (Store.holds_prepared (h put.client) hWritten.prepared_eq).2 (hOther.1 rfl) hText
        · rw [hWritten.other_eq client hClient]
          exact hText
    · rw [Shared.place, hScope]
      exact hOther.2 later hLater hClient

/-! ## Each store for itself -/

/-- A put leaves a file writable, and one that is not so. -/
theorem writable_perform (h : shared.KeptIn kind file) (put : SharedPut ι) :
    (shared.perform put).2.world.disk.Writable file ↔ shared.world.disk.Writable file := by
  rcases perform_cases h put with ⟨error, hPerform⟩ | ⟨prepared, disk, hWritten⟩
  · rw [hPerform]
  · obtain ⟨text, -, hWrite⟩ := hWritten.exists_text
    rw [hWritten.world_eq]
    exact iff_of_true (Disk.writable_write hWrite) (Disk.writable_of_write hWrite)

/-- A put that one of two succeeds with, the other one succeeds with as well, if it has the same
store and can write the file. -/
theorem Written.transfer {other : Shared ι} {put : SharedPut ι} {prepared : Store} {disk : Disk}
    (hWritten : shared.Written file put prepared disk) (hOther : other.KeptIn kind file)
    (hStore : shared.stores put.client = other.stores put.client)
    (hDisk : shared.world.disk.Writable file → other.world.disk.Writable file) :
    ∃ disk, other.Written file put prepared disk := by
  have hPrepared := hWritten.prepared_eq
  rw [hStore] at hPrepared
  obtain ⟨text, hText, hWrite⟩ := hWritten.exists_text
  obtain ⟨disk, hDisk⟩ := hDisk (Disk.writable_of_write hWrite) text
  exact written_of_put hOther ((Store.put_eq_ok_iff (hOther put.client)).mpr
    ⟨hPrepared, text, disk, hText, hDisk, rfl⟩ :
      (other.stores put.client).put other.world put.path put.value =
        .ok (prepared, { other.world with disk }))

/-- What a put makes of its store depends on the store, and on whether the file can be written. -/
theorem stores_perform_congr {other : Shared ι} (h : shared.KeptIn kind file)
    (hOther : other.KeptIn kind file) {put : SharedPut ι}
    (hStore : shared.stores put.client = other.stores put.client)
    (hDisk : shared.world.disk.Writable file ↔ other.world.disk.Writable file) :
    (shared.perform put).2.stores put.client = (other.perform put).2.stores put.client := by
  rcases perform_cases h put with ⟨error, hPerform⟩ | ⟨prepared, disk, hWritten⟩
  · rcases perform_cases hOther put with ⟨reason, hFails⟩ | ⟨prepared, disk, hWritten⟩
    · rw [hPerform, hFails]
      exact hStore
    · obtain ⟨_, hSame⟩ := hWritten.transfer h hStore.symm hDisk.mpr
      rw [hWritten.own_eq, hSame.own_eq]
  · obtain ⟨_, hSame⟩ := hWritten.transfer hOther hStore hDisk.mp
    rw [hWritten.own_eq, hSame.own_eq]

theorem stores_run_filter {other : Shared ι} (h : shared.KeptIn kind file)
    (hOther : other.KeptIn kind file) {client : ι}
    (hStore : shared.stores client = other.stores client)
    (hDisk : shared.world.disk.Writable file ↔ other.world.disk.Writable file)
    (puts : List (SharedPut ι)) :
    (shared.run puts).stores client =
      (other.run (puts.filter (·.client = client))).stores client := by
  induction puts generalizing shared other with
  | nil => exact hStore
  | cons put rest ih =>
    have hKept := (keptIn_perform h put).1
    have hWritable := writable_perform h put
    by_cases hClient : put.client = client
    · subst hClient
      rw [List.filter_cons_of_pos (by simp)]
      exact ih hKept (keptIn_perform hOther put).1 (stores_perform_congr h hOther hStore hDisk)
        (hWritable.trans (hDisk.trans (writable_perform hOther put).symm))
    · rw [List.filter_cons_of_neg (by simpa using hClient)]
      refine ih hKept hOther ?_ (hWritable.trans hDisk)
      rcases perform_cases h put with ⟨error, hPerform⟩ | ⟨prepared, disk, hWritten⟩
      · rw [hPerform]
        exact hStore
      · rw [hWritten.other_eq client (Ne.symm hClient)]
        exact hStore

/-- Each store ends as if the others had not put anything. -/
theorem stores_run (h : shared.KeptIn kind file) (client : ι) (puts : List (SharedPut ι)) :
    (shared.run puts).stores client =
      (shared.run (puts.filter (·.client = client))).stores client :=
  stores_run_filter h h rfl Iff.rfl puts

/-! ## What is in the file -/

section Kept

variable {before rest : List (SharedPut ι)} {put : SharedPut ι}

theorem exists_lastWriter (hDone : ((shared.run before).perform put).1 = .ok .done) :
    ∃ writer, shared.lastWriter? (before ++ put :: rest) = some writer := by
  rw [lastWriter?_append, lastWriter?, hDone, ← Option.isSome_iff_exists, Option.isSome_or,
    Option.isSome_or]
  exact Bool.or_eq_true_iff.mpr (.inl (Bool.or_eq_true_iff.mpr (.inr rfl)))

/-- A store that has put a value with success holds it until it puts another one in its place. -/
theorem holds_of_done (h : shared.KeptIn kind file)
    (hDone : ((shared.run before).perform put).1 = .ok .done)
    (hOther : ∀ later ∈ rest, later.client = put.client →
      ¬ kind.SamePlace (shared.place later) (shared.place put)) :
    ((shared.run (before ++ put :: rest)).stores put.client).Holds (shared.place put)
      put.value := by
  obtain ⟨hBefore, hScopeBefore⟩ := keptIn_run h before
  obtain ⟨hPut, hScopePut⟩ := keptIn_perform hBefore put
  rw [run_append, run]
  refine holds_run hPut ?_ fun later hLater hClient => ?_
  · rcases perform_cases hBefore put with ⟨error, hPerform⟩ | ⟨prepared, disk, hWritten⟩
    · rw [hPerform] at hDone
      cases hDone
    · rw [hWritten.own_eq, place, ← hScopeBefore]
      exact (Store.holds_prepared (hBefore put.client) hWritten.prepared_eq).1
  · rw [place, hScopePut, hScopeBefore]
    exact hOther later hLater hClient

/-- What has become of a value that was put with success, and that its store has not put anew. Every
store has what it loaded and has put itself, so that it still finds the value. But the file holds
the document of the store that was written last: if that is the same store, the value is found when
the file is opened again, and if not, only what that other store has itself is in the file. -/
theorem lastWriter_keeps {loaded : ι → Store} (h : shared.Opened kind file loaded)
    (hDone : ((shared.run before).perform put).1 = .ok .done)
    (hOther : ∀ later ∈ rest, later.client = put.client →
      ¬ kind.SamePlace (shared.place later) (shared.place put)) :
    let puts := before ++ put :: rest
    let after := shared.run puts
    (∀ client,
      after.stores client = (shared.run (puts.filter (·.client = client))).stores client) ∧
    (after.stores put.client).get after.world put.path = .ok (some put.value) ∧
    ∃ writer text, shared.lastWriter? puts = some writer ∧
      (after.stores writer).rendering? = some text ∧ after.world.disk.read file = .ok text ∧
      (kind = .ini → (loaded writer).Rereadable → (after.stores writer).Rereadable) ∧
      ((after.stores writer).Rereadable →
        ∃ reopened, kind.load after.world.disk file = .ok reopened ∧
          reopened.withScope (after.stores writer).scope = after.stores writer) ∧
      (writer = put.client → (kind = .ini → (loaded writer).Rereadable) →
        ∀ reopened, kind.load after.world.disk file = .ok reopened →
          (reopened.withScope (after.stores writer).scope).get after.world put.path =
            .ok (some put.value)) := by
  intro puts after
  have hKept := h.tracks.keptIn
  have hHolds : (after.stores put.client).Holds
      ((after.stores put.client).scope.resolve put.path) put.value := by
    rw [(keptIn_run hKept puts).2]
    exact holds_of_done hKept hDone hOther
  obtain ⟨writer, hWriter⟩ : ∃ writer, shared.lastWriter? puts = some writer :=
    exists_lastWriter hDone
  obtain ⟨text, hText, hRead⟩ := read_run hKept hWriter
  obtain ⟨hLegible, hSame, hStrings⟩ := (h.tracks.run puts writer).reopen hText hRead
  refine ⟨fun client => stores_run hKept client puts, Store.get_of_holds hHolds _, writer, text,
    hWriter, hText, hRead, hLegible, hSame, ?_⟩
  rintro rfl hLoaded reopened hReopened
  refine Store.get_of_holds ?_ _
  rw [Store.scope_withScope, Store.holds_withScope]
  exact hStrings (fun hKind => hLegible hKind (hLoaded hKind)) reopened hReopened hHolds

end Kept

/-- Two stores that were opened where there is no file. -/
def pair (store : Store) : Shared Bool := ⟨fun _ => store, {}⟩

/-- Puts of two stores in turn. -/
def turns : List (SharedPut Bool) :=
  [⟨true, "b", "2"⟩, ⟨false, "a", "1"⟩, ⟨true, "b", "3"⟩, ⟨false, "c/d", "4"⟩]

/-- After these, the value of the store that was written last is found in the file. -/
theorem lastWriter_keeps_turns :
    let start := pair (.ini ⟨"app.ini", {}⟩)
    let after := start.run turns
    start.Opened .ini "app.ini" (fun _ => .ini ⟨"app.ini", {}⟩) ∧
      ((start.run [⟨true, "b", "2"⟩]).perform ⟨false, "a", "1"⟩).1 = .ok .done ∧
      ∃ reopened, DocumentKind.ini.load after.world.disk "app.ini" = .ok reopened ∧
        (reopened.withScope (after.stores false).scope).get after.world "a" = .ok (some "1") := by
  intro start after
  have hOpened : start.Opened .ini "app.ini" (fun _ => .ini ⟨"app.ini", {}⟩) :=
    fun _ => ⟨{}, [], rfl, rfl⟩
  have hDone : ((start.run [⟨true, "b", "2"⟩]).perform ⟨false, "a", "1"⟩).1 = .ok .done := by
    decide +kernel
  have hWriter : start.lastWriter? turns = some false := by decide +kernel
  have hOther : ∀ later ∈ ([⟨true, "b", "3"⟩, ⟨false, "c/d", "4"⟩] : List (SharedPut Bool)),
      later.client = false →
        ¬ DocumentKind.ini.SamePlace (start.place later) (start.place ⟨false, "a", "1"⟩) := by
    simp only [DocumentKind.SamePlace]
    decide +kernel
  have hEmpty : Store.Rereadable (.ini ⟨"app.ini", {}⟩) := fun leaf hLeaf => by cases hLeaf
  obtain ⟨-, -, writer, text, hLast, -, -, hLegible, hAgain, hFound⟩ :=
    lastWriter_keeps hOpened hDone hOther
  obtain rfl : writer = false := Option.some.inj (hLast.symm.trans hWriter)
  obtain ⟨reopened, hReopened, -⟩ := hAgain (hLegible rfl hEmpty)
  exact ⟨hOpened, hDone, reopened, hReopened, hFound rfl (fun _ => hEmpty) reopened hReopened⟩

/-- Both puts succeed, and only the second value is found when the file is opened again. -/
def LosesFirst (kind : DocumentKind) (file : String) (shared : Shared ι)
    (first second : SharedPut ι) : Prop :=
  (shared.perform first).1 = .ok .done ∧ ((shared.run [first]).perform second).1 = .ok .done ∧
    let world := (shared.run [first, second]).world
    (kind.load world.disk file >>= (·.get world first.path)) = .ok none ∧
      (kind.load world.disk file >>= (·.get world second.path)) = .ok (some second.value)

/-- What one of two stores has put is lost when the other one is written. -/
theorem losesFirst_pair :
    ((pair (.ini ⟨"app.ini", {}⟩)).Opened .ini "app.ini" (fun _ => .ini ⟨"app.ini", {}⟩) ∧
      LosesFirst .ini "app.ini" (pair (.ini ⟨"app.ini", {}⟩)) ⟨true, "b", "2"⟩ ⟨false, "a", "1"⟩) ∧
    ((pair (.json JsonFile.fresh)).Opened .json "app.json" (fun _ => .json JsonFile.fresh) ∧
      LosesFirst .json "app.json" (pair (.json JsonFile.fresh)) ⟨true, "b", "2"⟩
        ⟨false, "a", "1"⟩) := by
  have hIni : LosesFirst .ini "app.ini" (pair (.ini ⟨"app.ini", {}⟩)) ⟨true, "b", "2"⟩
      ⟨false, "a", "1"⟩ := by
    unfold LosesFirst
    decide +kernel
  have hJson : LosesFirst .json "app.json" (pair (.json JsonFile.fresh)) ⟨true, "b", "2"⟩
      ⟨false, "a", "1"⟩ := by
    unfold LosesFirst
    decide +kernel
  exact ⟨⟨fun _ => ⟨{}, [], rfl, rfl⟩, hIni⟩, fun _ => ⟨{}, [], rfl, rfl⟩, hJson⟩

end Shared

end ConfigStore
