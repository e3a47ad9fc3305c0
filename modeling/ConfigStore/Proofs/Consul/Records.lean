import ConfigStore.Consul.Listing
import ConfigStore.Proofs.Outcome
import ConfigStore.Proofs.Path
import ConfigStore.Proofs.Text.Base64

/-!
# The records of a listing

An agent lists every key that begins with a text, so a listing holds more than what lies at and
below a path.

* `Consul.Record.At`: the records that lie at or below a path. These are the ones that are selected
  (`Consul.Record.At.select?_eq`), with `Consul.Record.relative`, their names as seen from the
  prefix.
* `Consul.Record.Holds` is the text that the value of a record stands for, and
  `Consul.Selected.decode_eq_ok_iff` says that this is what is read.
-/

namespace ConfigStore.Consul

namespace Record

variable {record : Record} {text : String}

/-- The record has a value and lies at or below a path that is counted from the top. A key that ends
with a slash is that of a folder. -/
structure At (path : List String) (record : Record) : Prop where
  hasValue : record.value ≠ none
  notFolder : record.key.toList.getLast? ≠ some defaultSeparator
  below : path <+: Path.split defaultSeparator record.key

instance (path : List String) : DecidablePred (At path) := fun record =>
  decidable_of_iff
    (record.value ≠ none ∧ record.key.toList.getLast? ≠ some defaultSeparator ∧
      path <+: Path.split defaultSeparator record.key)
    ⟨fun ⟨hValue, hFolder, hBelow⟩ => ⟨hValue, hFolder, hBelow⟩,
      fun h => ⟨h.hasValue, h.notFolder, h.below⟩⟩

/-- The names of the key below so many names of the prefix. -/
def relative (scope : Scope) (record : Record) : List String :=
  (Path.split defaultSeparator record.key).drop scope.root.length

/-- The value is the base64 of a text in UTF-8. -/
def Holds (record : Record) (text : String) : Prop :=
  ∃ encoded, record.value = some encoded ∧
    Utf8.encode encoded.toList = Base64.encode (Utf8.encode text.toList)

/-- The record has names below the prefix, and those of another one go on from there. -/
def Above (scope : Scope) (record other : Record) : Prop :=
  record.relative scope ≠ [] ∧ record.relative scope <+: other.relative scope ∧
    record.relative scope ≠ other.relative scope

/-- Of the records with a property, the last one holds a text. -/
def LastHolds (records : List Record) (P : Record → Prop) (text : String) : Prop :=
  ∃ before record after, records = before ++ record :: after ∧ P record ∧ record.Holds text ∧
    ∀ later ∈ after, ¬ P later

theorem Holds.unique {other : String} (h : record.Holds text) (hOther : record.Holds other) :
    text = other := by
  obtain ⟨encoded, hValue, hText⟩ := h
  obtain ⟨encoded', hValue', hText'⟩ := hOther
  cases hValue.symm.trans hValue'
  have hBytes : Base64.decode (Utf8.encode encoded.toList) = .ok (Utf8.encode other.toList) :=
    Base64.decode_eq_ok_iff.mpr hText'
  rw [Base64.decode_eq_ok_iff.mpr hText, Except.ok.injEq] at hBytes
  exact String.toList_inj.mp (Utf8.encode_injective hBytes)

variable {scope : Scope} {path : String}

/-- The names of a record from the top, if it lies at or below a path. -/
theorem At.split_eq (h : record.At (scope.resolve path)) :
    Path.split defaultSeparator record.key = scope.root ++ record.relative scope := by
  obtain ⟨rest, hRest⟩ := h.below
  rw [relative, ← hRest, Scope.resolve, List.append_assoc, List.drop_left]

/-- Below a path every record has the names of the path. -/
theorem At.prefix_relative (h : record.At (scope.resolve path)) :
    scope.split path <+: record.relative scope := by
  have hBelow := h.below
  rwa [h.split_eq, Scope.resolve, List.prefix_append_right_inj] at hBelow

/-- A record at or below a path is selected with its names below the prefix. -/
theorem At.select?_eq (h : record.At (scope.resolve path)) :
    ∃ encoded, record.value = some encoded ∧
      record.select? scope (scope.resolve path) =
        some ⟨record.relative scope, record.key, encoded⟩ := by
  obtain ⟨encoded, hEncoded⟩ := Option.ne_none_iff_exists'.mp h.hasValue
  obtain ⟨rest, hRest⟩ := h.below
  have hBelow : Path.below? (scope.resolve path) (Path.split defaultSeparator record.key) =
      some rest := Path.below?_eq_some_iff.mpr hRest.symm
  have hRelative : scope.relative? (Path.split defaultSeparator record.key) =
      some (record.relative scope) := Path.below?_eq_some_iff.mpr h.split_eq
  refine ⟨encoded, hEncoded, ?_⟩
  rw [select?, hEncoded]
  dsimp only
  rw [if_neg h.notFolder, hBelow, hRelative]
  rfl

theorem select?_of_not_at (h : ¬ record.At (scope.resolve path)) :
    record.select? scope (scope.resolve path) = none := by
  rw [select?]
  split
  · rfl
  next encoded hEncoded =>
    dsimp only
    split
    · rfl
    next hFolder =>
      split
      · rfl
      next hBelow =>
        rw [Option.isNone_iff_eq_none] at hBelow
        obtain ⟨rest, hRest⟩ := Option.ne_none_iff_exists'.mp hBelow
        exact absurd ⟨by simp [hEncoded], hFolder, rest,
          (Path.below?_eq_some_iff.mp hRest).symm⟩ h

/-- No name that is selected holds the default separator. -/
theorem clean_of_select? {selected : Selected}
    (h : record.select? scope (scope.resolve path) = some selected) :
    Path.Clean defaultSeparator selected.path := by
  by_cases hAt : record.At (scope.resolve path)
  · obtain ⟨encoded, -, hSelect⟩ := hAt.select?_eq
    cases hSelect.symm.trans h
    intro name hName
    exact Path.clean_split defaultSeparator record.key name (List.mem_of_mem_drop hName)
  · rw [select?_of_not_at hAt] at h
    cases h

end Record

namespace Selected

theorem decode_eq_ok_iff {selected : Selected} {value : List String × String} :
    selected.decode = .ok value ↔
      value.1 = selected.path ∧
        Utf8.encode selected.encoded.toList = Base64.encode (Utf8.encode value.2.toList) := by
  have hSteps : selected.decode = .ok value ↔
      ∃ bytes, Base64.decode (Utf8.encode selected.encoded.toList) = .ok bytes ∧
        Utf8.decode bytes = .ok value.2 ∧ value.1 = selected.path := by
    rw [decode]
    cases Base64.decode (Utf8.encode selected.encoded.toList) with
    | error fault => simp
    | ok bytes =>
      dsimp only
      cases hText : Utf8.decode bytes with
      | error fault => simp [hText]
      | ok text => simp [hText, Prod.ext_iff, eq_comm, and_comm]
  rw [hSteps]
  simp only [Base64.decode_eq_ok_iff, Utf8.decode_eq_ok_iff]
  constructor
  · rintro ⟨bytes, hEncoded, rfl, hPath⟩
    exact ⟨hPath, hEncoded⟩
  · rintro ⟨hPath, hEncoded⟩
    exact ⟨_, hEncoded, rfl, hPath⟩

theorem decode_eq_error {selected : Selected} {error : Error} (h : selected.decode = .error error) :
    ∃ message, error = .backend message := by
  rw [decode] at h
  split at h
  · cases h
    exact ⟨_, rfl⟩
  · split at h
    · cases h
      exact ⟨_, rfl⟩
    · cases h

end Selected

end ConfigStore.Consul
