import ConfigStore.Command.Run
import ConfigStore.Proofs.NameMap
import ConfigStore.Proofs.Outcome

/-!
# What commands do

The steps of a command as changes of its state.

* `Command.run_bind`: work that goes on is run step by step, up to the first failure.
* `Command.run_openStore` opens a store, `Command.run_putAll_cons` sets one value and goes on.
* `Arguments.run_copy`: copying is setting the values of the map that one store is flattened to
  in another one.
* `Registry.NamesIniFile`: the URIs that are opened as INI files (`Registry.openStore_file`).
-/

namespace ConfigStore

namespace Command

variable {α β : Type}

theorem run_bind (work : Work α) (next : α → Work β) (state : State) :
    (work >>= next).run.run state =
      match work.run.run state with
      | (.ok a, later) => (next a).run.run later
      | (.error error, later) => (.error error, later) := by
  rw [ExceptT.run_bind, StateT.run_bind]
  rcases work.run.run state with ⟨error | a, later⟩ <;> rfl

theorem run_world (state : State) : world.run.run state = (.ok state.world, state) := rfl

theorem run_lift (outcome : Except Error α) (state : State) :
    (liftM outcome : Work α).run.run state = (outcome, state) := by
  cases outcome <;> rfl

/-- A store that can be opened is opened, and the log tells of it. -/
theorem run_openStore {uri : String} {store : Store} {state : State}
    (h : Registry.standard.openStore state.world uri = .ok store) (separator : Char) :
    ∃ line, (openStore uri separator).run.run state =
      (.ok (store.setSeparator separator), { state with log := line :: state.log }) := by
  obtain ⟨⟨opener, location⟩, hFind, hOpen⟩ := Except.bind_eq_ok_iff.mp h
  dsimp only at hOpen
  refine ⟨s!"opening a store of scheme '{location.scheme}'", ?_⟩
  rw [openStore, run_bind, run_lift, hFind]
  dsimp only
  rw [run_bind]
  change (do
      let store ← liftM (opener location state.world)
      pure (store.setSeparator separator) : Work Store).run.run
        { state with log := _ :: state.log } = _
  rw [run_bind, run_lift, hOpen]
  rfl

theorem run_putValue (store : Store) (path value : String) (state : State) :
    (putValue store path value).run.run state =
      match store.put state.world path value with
      | .ok (changed, world) => (.ok changed, { state with world })
      | .error error => (.error error, state) := by
  rw [putValue, run_bind, run_world]
  dsimp only
  rw [run_bind, run_lift]
  cases store.put state.world path value <;> rfl

/-- What is set stays set if a later value cannot be set. -/
theorem run_putAll_cons (store : Store) (entry : String × String)
    (rest : List (String × String)) (state : State) :
    (putAll store (entry :: rest)).run.run state =
      match store.put state.world entry.1 entry.2 with
      | .ok (changed, world) => (putAll changed rest).run.run { state with world }
      | .error error => (.error error, state) := by
  rw [putAll, run_bind, run_putValue]
  cases store.put state.world entry.1 entry.2 <;> rfl

end Command

/-- Copying opens both stores, flattens the first one and sets what it finds in the other one. -/
theorem Arguments.run_copy {arguments : Arguments} {world : World}
    {source destination path : String} {origin target : Store} {values : NameMap String}
    (hCommand : arguments.command = .copy source destination path)
    (hSource : Registry.standard.openStore world source = .ok origin)
    (hDestination : Registry.standard.openStore world destination = .ok target)
    (hValues : (origin.setSeparator arguments.separator).flatten world path = .ok values) :
    ∃ log outcome later,
      (Command.putAll (target.setSeparator arguments.separator) values.entries).run.run
          { world, log } = (outcome, later) ∧
        (arguments.run world).1.outcome =
          (outcome.map fun _ => .copied values.size).mapError .store ∧
        (arguments.run world).2 = later.world := by
  obtain ⟨line, hFirst⟩ :=
    @Command.run_openStore source origin { world } hSource arguments.separator
  obtain ⟨other, hSecond⟩ :=
    @Command.run_openStore destination target { world, log := [line] } hDestination
      arguments.separator
  obtain ⟨⟨outcome, later⟩, hAll⟩ : ∃ done,
      (Command.putAll (target.setSeparator arguments.separator) values.entries).run.run
        { world, log := [other, line] } = done := ⟨_, rfl⟩
  refine ⟨[other, line], outcome, later, hAll, ?_⟩
  rw [Arguments.run, hCommand, Command.work, Command.run_bind, hFirst]
  dsimp only
  rw [Command.run_bind, hSecond]
  dsimp only
  rw [Command.run_bind, Command.run_world]
  dsimp only
  rw [Command.run_bind, Command.run_lift, hValues]
  dsimp only
  rw [Command.run_bind, hAll]
  cases outcome <;> exact ⟨rfl, rfl⟩

namespace Registry

theorem get?_register (registry : Registry) (scheme : String) (opener : Opener) (name : String) :
    (registry.register scheme opener).openers.get? name =
      if name = key scheme then some opener else registry.openers.get? name :=
  NameMap.get?_insert _ _ _ _

/-- The URI is read as that of the file, which has the name of an INI file. -/
def NamesIniFile (uri file : String) : Prop :=
  (∃ location, Location.read uri = .ok location ∧ location.scheme = "file" ∧
    location.documentPath = file) ∧ IniFile.hasSuffix file = true

theorem openStore_file {uri file : String} (h : NamesIniFile uri file) (world : World) :
    standard.openStore world uri = (IniFile.load world.disk file).map .ini := by
  obtain ⟨⟨location, hLocation, hScheme, rfl⟩, -⟩ := h
  have hOpener : standard.openers.get? location.scheme = some Opener.ini := by
    rw [hScheme, standard, get?_register, if_neg (by decide +kernel), get?_register,
      if_neg (by decide +kernel), get?_register, if_neg (by decide +kernel), get?_register,
      if_pos (by decide +kernel)]
  rw [openStore, find, hLocation, Except.ok_bind, hOpener]
  rfl

end Registry

end ConfigStore
