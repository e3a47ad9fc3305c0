import ConfigStore.Proofs.Store.Session
import ConfigStore.Proofs.Tree.Leaves
import ConfigStore.Proofs.Tree.Restriction
import Mathlib.Data.Finmap

/-!
# The flat map behind a store in memory

A store in memory behaves like a finite map from paths to values, in which no path leads through
another one.

* `FlatMap` is such a map, `FlatMap.HasRoom` says which paths can be added to it.
* `FlatStore.Step` says what each operation answers and does, in terms of the map alone.
* `Session.Agrees` is kept by every operation, with the answers of the map (`Session.Agrees.step`);
  so a store in memory and a flat map go through every run in step (`Session.Lockstep`).
-/

namespace ConfigStore

/-- A finite map from non-empty paths to values, no two of which lead through each other. -/
structure FlatMap where
  values : Finmap fun _ : List String => String
  nil_notMem : [] ∉ values
  prefixFree : ∀ path ∈ values, ∀ other ∈ values, ¬ Path.Clashes path other

namespace FlatMap

def empty : FlatMap := ⟨∅, Finmap.notMem_empty, fun _ h => absurd h Finmap.notMem_empty⟩

instance : Inhabited FlatMap := ⟨empty⟩

def lookup (map : FlatMap) (path : List String) : Option String := map.values.lookup path

/-- Whether a value can be set at a path: the path is not empty, and it is neither a proper prefix
nor a proper extension of a path in the map. -/
def HasRoom (map : FlatMap) (path : List String) : Prop :=
  path ≠ [] ∧ ∀ other ∈ map.values, ¬ Path.Clashes path other

def insert (map : FlatMap) (path : List String) (value : String) (room : map.HasRoom path) :
    FlatMap where
  values := map.values.insert path value
  nil_notMem h := by
    rcases Finmap.mem_insert.mp h with h | h
    · exact room.1 h.symm
    · exact map.nil_notMem h
  prefixFree first hFirst second hSecond hClash := by
    rcases Finmap.mem_insert.mp hFirst with hFirst | hFirst <;>
      rcases Finmap.mem_insert.mp hSecond with hSecond | hSecond
    · exact hClash.1 (hFirst.trans hSecond.symm)
    · exact room.2 second hSecond (hFirst ▸ hClash)
    · exact room.2 first hFirst (hSecond ▸ hClash.symm)
    · exact map.prefixFree first hFirst second hSecond hClash

@[simp] theorem lookup_empty (path : List String) : empty.lookup path = none :=
  Finmap.lookup_empty path

/-- An insertion sets the value at its path and no other. -/
theorem lookup_insert {map : FlatMap} {path : List String} {value : String}
    (room : map.HasRoom path) (other : List String) :
    (map.insert path value room).lookup other =
      if other = path then some value else map.lookup other := by
  rw [lookup, insert]
  split
  next hEq => rw [hEq, Finmap.lookup_insert]
  next hNe => rw [Finmap.lookup_insert_of_ne _ hNe, lookup]

theorem hasRoom_iff {map : FlatMap} {path : List String} :
    map.HasRoom path ↔
      path ≠ [] ∧ ∀ other found, map.lookup other = some found → ¬ Path.Clashes path other := by
  refine and_congr_right fun _ => forall_congr' ?_
  intro other
  rw [Finmap.mem_iff, forall_exists_index]
  rfl

/-- The leaves of `tree` are what the map has under `root`, as far as it extends `above`, and
no branch below the top is empty. -/
structure Lists (map : FlatMap) (root above : List String) (tree : Tree) : Prop where
  mem_leaves_iff : ∀ path value, (path, value) ∈ tree.root.leaves ↔
    path ≠ [] ∧ above <+: path ∧ map.lookup (root ++ path) = some value
  filled : ∀ path, tree.get? path = some .empty → path = []

end FlatMap

/-- A flat map together with the scope through which it is used. -/
structure FlatStore where
  scope : Scope := {}
  map : FlatMap := .empty

namespace FlatStore

def get (flat : FlatStore) (path : String) : Option String :=
  flat.map.lookup (flat.scope.resolve path)

/-- What an operation answers, and what it makes of a flat map. -/
inductive Step (flat : FlatStore) : Operation → Except Error Answer → FlatStore → Prop
  | setRoot (path : String) :
    Step flat (.setRoot path) (.ok .done) { flat with scope := flat.scope.setRoot path }
  | setSeparator (c : Char) :
    Step flat (.setSeparator c) (.ok .done) { flat with scope := flat.scope.setSeparator c }
  | resetSeparator :
    Step flat .resetSeparator (.ok .done) { flat with scope := flat.scope.resetSeparator }
  | written {operation : Operation} {path value : String}
      (h : operation.written? = some (path, value))
      (room : flat.map.HasRoom (flat.scope.resolve path)) :
    Step flat operation (.ok .done)
      { flat with map := flat.map.insert (flat.scope.resolve path) value room }
  | refused {operation : Operation} {path value : String}
      (h : operation.written? = some (path, value))
      (noRoom : ¬ flat.map.HasRoom (flat.scope.resolve path)) (error : Error) :
    Step flat operation (.error error) flat
  | get (path : String) : Step flat (.get path) (.ok (.text (flat.get path))) flat
  | getInt (path : String) :
    Step flat (.getInt path)
      ((Store.convert path "integer" (Decimal.readInt? 64) (flat.get path)).map .integer) flat
  | getInt32 (path : String) :
    Step flat (.getInt32 path)
      (((Store.convert path "integer" (Decimal.readInt? 64) (flat.get path)).bind
        (Store.narrow path)).map .integer) flat
  | getDouble (path : String) :
    Step flat (.getDouble path)
      ((Store.convert path "float" Decimal.readDouble? (flat.get path)).map .double) flat
  | has (path : String) : Step flat (.has path) (.ok (.truth (flat.get path).isSome)) flat
  | subtree (path : String) {tree : Tree} (separator : tree.separator = flat.scope.separator)
      (lists : flat.map.Lists flat.scope.root (flat.scope.split path) tree) :
    Step flat (.subtree path) (.ok (.tree tree)) flat
  | flatten (path : String) {tree : Tree} (separator : tree.separator = flat.scope.separator)
      (lists : flat.map.Lists flat.scope.root (flat.scope.split path) tree) :
    Step flat (.flatten path) (.ok (.map tree.flatten)) flat

end FlatStore

namespace Session

/-- A session whose store is in memory and holds the values of a flat map. -/
def Agrees (session : Session) (flat : FlatStore) : Prop :=
  ∃ held, session.store = .memory held ∧ held.scope = flat.scope ∧ held.tree.root.Filled ∧
    ∀ path, held.tree.root.valueAt? path = flat.map.lookup path

/-- A session and a flat map that go through a run together: they agree at every step, each
operation answers what the map says, and a session is left alone by an operation that fails. -/
inductive Lockstep : Session → FlatStore → List Operation → Prop
  | nil {session : Session} {flat : FlatStore} (agrees : session.Agrees flat) :
    Lockstep session flat []
  | cons {session : Session} {flat next : FlatStore} {operation : Operation}
      {rest : List Operation} (agrees : session.Agrees flat)
      (step : flat.Step operation (session.perform operation).1 next)
      (unchanged : ∀ error, (session.perform operation).1 = .error error →
        (session.perform operation).2 = session)
      (others : Lockstep (session.perform operation).2 next rest) :
    Lockstep session flat (operation :: rest)

namespace Agrees

variable {session : Session} {flat : FlatStore}

/-- A put succeeds if and only if there is room, and then sets what the map sets. -/
theorem put (h : session.Agrees flat) (path value : String) :
    (∃ room : flat.map.HasRoom (flat.scope.resolve path), ∃ next,
        session.store.put session.world path value = .ok next ∧
        Agrees ⟨next.1, next.2⟩
          { flat with map := flat.map.insert (flat.scope.resolve path) value room }) ∨
      ¬ flat.map.HasRoom (flat.scope.resolve path) ∧
        ∃ error, session.store.put session.world path value = .error error := by
  obtain ⟨held, hStore, hScope, hFilled, hValues⟩ := h
  have hRoom : flat.map.HasRoom (flat.scope.resolve path) ↔
      ∃ tree, held.tree.insert (flat.scope.resolve path) value = .ok tree := by
    rw [Tree.exists_insert_iff hFilled, FlatMap.hasRoom_iff]
    simp only [hValues]
  have hPut : session.store.put session.world path value =
      ((held.tree.insert (flat.scope.resolve path) value).map fun tree =>
        (.memory { held with tree }, session.world)) := by
    rw [hStore, Store.put_memory, ScopedTree.put, hScope]
    cases held.tree.insert (flat.scope.resolve path) value <;> rfl
  cases hInsert : held.tree.insert (flat.scope.resolve path) value with
  | ok tree =>
    have room := hRoom.mpr ⟨tree, hInsert⟩
    refine .inl ⟨room, _, hPut.trans (congrArg (Except.map _) hInsert), ?_⟩
    refine ⟨_, rfl, hScope, Tree.filled_insert hFilled hInsert, fun other => ?_⟩
    rw [FlatMap.lookup_insert room, Tree.valueAt?_insert hInsert, hValues]
  | error error =>
    refine .inr ⟨fun room => ?_, error, hPut.trans (congrArg (Except.map _) hInsert)⟩
    obtain ⟨tree, hTree⟩ := hRoom.mp room
    cases hInsert.symm.trans hTree

/-- A session whose scope is changed agrees with the flat map in that scope. -/
theorem withScope (h : session.Agrees flat) (scope : Scope) :
    Agrees { session with store := session.store.withScope scope } { flat with scope } := by
  obtain ⟨held, hStore, -, hFilled, hValues⟩ := h
  exact ⟨{ held with scope }, by rw [hStore]; rfl, rfl, hFilled, hValues⟩

theorem scope_eq (h : session.Agrees flat) : session.store.scope = flat.scope := by
  obtain ⟨held, hStore, hScope, -⟩ := h
  rw [hStore, ← hScope]
  rfl

theorem get (h : session.Agrees flat) (path : String) :
    session.store.get session.world path = .ok (flat.get path) := by
  obtain ⟨held, hStore, hScope, -, hValues⟩ := h
  rw [hStore, Store.get, ScopedTree.get?, hScope]
  exact congrArg Except.ok (hValues _)

theorem subtree (h : session.Agrees flat) (path : String) :
    ∃ tree, session.store.subtree session.world path = .ok tree ∧
      session.store.flatten session.world path = .ok tree.flatten ∧
      tree.separator = flat.scope.separator ∧
      flat.map.Lists flat.scope.root (flat.scope.split path) tree := by
  obtain ⟨held, hStore, hScope, hFilled, hValues⟩ := h
  rw [hStore]
  refine ⟨held.subtree path, rfl, rfl, ?_, ?_⟩
  · rw [ScopedTree.separator_subtree, hScope]
  · refine ⟨fun other value => ?_, ScopedTree.filled_subtree hFilled path⟩
    rw [Node.mem_leaves_iff (held.subtree path).ordered, ScopedTree.valueAt?_subtree, hScope,
      hValues]

/-- An operation that writes nothing answers what the map says. -/
theorem step_of_not_written (h : session.Agrees flat) {operation : Operation}
    (hWritten : operation.written? = none) :
    ∃ next, flat.Step operation (session.perform operation).1 next ∧
      (session.perform operation).2.Agrees next ∧
      ∀ error, (session.perform operation).1 = .error error →
        (session.perform operation).2 = session := by
  have hScope := h.scope_eq
  cases operation with
  | setRoot path =>
    refine ⟨_, .setRoot path, ?_, fun error hError => by cases hError⟩
    rw [← hScope]
    exact h.withScope _
  | setSeparator c =>
    refine ⟨_, .setSeparator c, ?_, fun error hError => by cases hError⟩
    rw [← hScope]
    exact h.withScope _
  | resetSeparator =>
    refine ⟨_, .resetSeparator, ?_, fun error hError => by cases hError⟩
    rw [← hScope]
    exact h.withScope _
  | put | putInt | putDouble => cases hWritten
  | get path =>
    refine ⟨flat, ?_, h, fun _ _ => rfl⟩
    rw [perform, h.get]
    exact .get path
  | getInt path =>
    refine ⟨flat, ?_, h, fun _ _ => rfl⟩
    rw [perform, Store.getInt, h.get]
    exact .getInt path
  | getInt32 path =>
    refine ⟨flat, ?_, h, fun _ _ => rfl⟩
    rw [perform, Store.getInt32, Store.getInt, h.get]
    exact .getInt32 path
  | getDouble path =>
    refine ⟨flat, ?_, h, fun _ _ => rfl⟩
    rw [perform, Store.getDouble, h.get]
    exact .getDouble path
  | has path =>
    refine ⟨flat, ?_, h, fun _ _ => rfl⟩
    rw [perform, Store.has, h.get]
    exact .has path
  | subtree path =>
    obtain ⟨tree, hTree, -, hSeparator, hLists⟩ := h.subtree path
    refine ⟨flat, ?_, h, fun _ _ => rfl⟩
    rw [perform, hTree]
    exact .subtree path hSeparator hLists
  | flatten path =>
    obtain ⟨tree, -, hFlat, hSeparator, hLists⟩ := h.subtree path
    refine ⟨flat, ?_, h, fun _ _ => rfl⟩
    rw [perform, hFlat]
    exact .flatten path hSeparator hLists

/-- One operation of a session and its flat map. -/
theorem step (h : session.Agrees flat) (operation : Operation) :
    ∃ next, flat.Step operation (session.perform operation).1 next ∧
      (session.perform operation).2.Agrees next ∧
      ∀ error, (session.perform operation).1 = .error error →
        (session.perform operation).2 = session := by
  cases hWritten : operation.written? with
  | some written =>
    obtain ⟨path, value⟩ := written
    rw [perform_of_written hWritten]
    rcases h.put path value with ⟨room, next, hPut, hNext⟩ | ⟨noRoom, error, hPut⟩
    · rw [hPut]
      exact ⟨_, .written hWritten room, hNext, fun error hError => by cases hError⟩
    · rw [hPut]
      exact ⟨flat, .refused hWritten noRoom error, h, fun _ _ => rfl⟩
  | none => exact h.step_of_not_written hWritten

end Agrees

/-- A store in memory and a flat map, both of them new, go through every run in step. -/
theorem lockstep_memory (world : World) (operations : List Operation) :
    Lockstep ⟨.memory {}, world⟩ {} operations := by
  have hRun : ∀ (session : Session) (flat : FlatStore), session.Agrees flat →
      Lockstep session flat operations := by
    induction operations with
    | nil => exact fun session flat h => .nil h
    | cons operation rest ih =>
      intro session flat h
      obtain ⟨next, hStep, hNext, hUnchanged⟩ := h.step operation
      exact .cons h hStep hUnchanged (ih _ next hNext)
  refine hRun _ _ ⟨_, rfl, rfl, Node.filled_empty, fun path => ?_⟩
  rw [FlatMap.lookup_empty]
  exact Tree.valueAt?_empty _ path

end Session

end ConfigStore
