import ConfigStore.Proofs.Decimal.Integer
import ConfigStore.Proofs.Json.Locality
import ConfigStore.Proofs.Store.Durability
import ConfigStore.Proofs.Tree.Locality

/-!
# Integers in stores

* `Store.verdict_put_congr`: whether a put fails, and why, does not depend on the value, except that
  a file of lines refuses some values.
* `Store.get_of_put`: a value that was put is found.
* `Store.getInt_cases`: what is answered where a text is read as an integer.
* `Store.integers_exact` puts these together for integers that are put and for texts that are read.
-/

namespace ConfigStore

open scoped Decimal

/-! ## Values do not decide whether a put fails -/

theorem Node.verdict_overwrite_congr (value other : String) (path : List String) (node : Node) :
    (overwrite value path node).verdict = (overwrite other path node).verdict := by
  induction path generalizing node with
  | nil => cases node <;> rfl
  | cons name rest ih =>
    cases node with
    | leaf old => rfl
    | branch children =>
      rw [overwrite_branch_cons, overwrite_branch_cons]
      cases children.lookup name with
      | none => rfl
      | some child =>
        have hChild := ih child
        dsimp only
        cases hValue : overwrite value rest child <;> cases hOther : overwrite other rest child <;>
          rw [hValue, hOther] at hChild <;> cases hChild <;> rfl

theorem Tree.verdict_insert_congr (tree : Tree) (path : List String) (value other : String) :
    (tree.insert path value).verdict = (tree.insert path other).verdict := by
  have hOutcome : ∀ text, (tree.insert path text).verdict =
      (tree.root.put path text).verdict.mapError (·.toError tree.separator) := by
    intro text
    rw [insert, Change.verdict_committed, Node.put, Change.verdict_committed]
    rfl
  rw [hOutcome, hOutcome, Node.put_eq_overwrite, Node.put_eq_overwrite]
  split
  · rfl
  · rw [Node.verdict_overwrite_congr value other]

theorem Json.verdict_overwrite_congr (text other : String) (path : List String) (value : Json) :
    (overwrite text path value).verdict = (overwrite other path value).verdict := by
  induction path generalizing value with
  | nil => cases value <;> rfl
  | cons name rest ih =>
    cases value with
    | null =>
      rw [overwrite, overwrite, verdict_below, verdict_below, ih]
    | object members =>
      rw [overwrite, overwrite, verdict_below, verdict_below, ih]
    | array items =>
      rw [overwrite, overwrite]
      cases position? name items.length with
      | none => rfl
      | some position =>
        dsimp only
        rw [verdict_below, verdict_below, ih]
    | bool | number | string => rfl

theorem Disk.verdict_write_congr (disk : Disk) (path content other : String) :
    (disk.write path content).verdict = (disk.write path other).verdict := by
  rw [write, write]
  refine Except.verdict_bind_congr rfl fun place _ hPlace hSame => ?_
  cases hPlace.symm.trans hSame
  by_cases hBlocked : endsWithSlash path = true ∨ disk.held? place = some .directory
  · rw [if_pos hBlocked, if_pos hBlocked]
    rfl
  · rw [if_neg hBlocked, if_neg hBlocked]
    cases disk.refusal <;> rfl

namespace Store

variable {store : Store} {world : World} {path value other : String}

/-- A put to a store that keeps its values itself goes the same way with any other value, as long as
lines can carry both of them or neither. -/
theorem verdict_put_congr (hLocal : ∀ client, store ≠ .consul client) (world : World)
    (path : String) (h : Ini.storableValue value = Ini.storableValue other) :
    (store.put world path value).verdict = (store.put world path other).verdict := by
  cases store with
  | memory held =>
    rw [put_memory, put_memory, Except.verdict_map, Except.verdict_map, ScopedTree.put,
      ScopedTree.put, Except.verdict_map, Except.verdict_map]
    exact held.tree.verdict_insert_congr _ value other
  | ini store =>
    have hCheck : IniFile.check (store.held.scope.resolve path) value =
        IniFile.check (store.held.scope.resolve path) other := by
      rw [IniFile.check, IniFile.check, h]
    rw [put_ini, put_ini, Except.verdict_map, Except.verdict_map, IniFile.put_eq, IniFile.put_eq,
      hCheck]
    refine Except.verdict_bind_congr rfl fun _ _ _ _ => Except.verdict_bind_congr ?_ ?_
    · rw [ScopedTree.put, ScopedTree.put, Except.verdict_map, Except.verdict_map]
      exact store.held.tree.verdict_insert_congr _ value other
    · intro held changed _ _
      refine Except.verdict_bind_congr ?_ fun _ _ _ _ => rfl
      rw [Except.verdict_mapError, Except.verdict_mapError, world.disk.verdict_write_congr]
  | json store =>
    rw [put_json, put_json, Except.verdict_map, Except.verdict_map, JsonFile.put_eq,
      JsonFile.put_eq]
    refine Except.verdict_bind_congr ?_ ?_
    · rw [Except.verdict_mapError, Except.verdict_mapError, Json.set_eq_overwrite,
        Json.set_eq_overwrite]
      split
      · rfl
      · rw [Json.verdict_overwrite_congr value other]
    · intro document changed _ _
      refine Except.verdict_bind_congr ?_ fun _ _ _ _ => rfl
      rw [Except.verdict_mapError, Except.verdict_mapError, world.disk.verdict_write_congr]
  | consul client => exact absurd rfl (hLocal client)

/-- A value that was put is found. -/
theorem get_of_put (hLocal : ∀ client, store ≠ .consul client) {next : Store × World}
    (hPut : store.put world path value = .ok next) : next.1.get next.2 path = .ok (some value) := by
  cases store with
  | memory held =>
    rw [put_memory] at hPut
    obtain ⟨changed, hChanged, rfl⟩ := Except.map_eq_ok_iff.mp hPut
    obtain ⟨tree, hTree, rfl⟩ := Except.map_eq_ok_iff.mp hChanged
    exact congrArg Except.ok ((Tree.valueAt?_insert hTree _).trans (if_pos rfl))
  | ini store =>
    exact (@Session.inStep_of_put _ path value ⟨.ini store, world⟩ next rfl hPut).2
  | json store =>
    exact (@Session.inStep_of_put _ path value ⟨.json store, world⟩ next rfl hPut).2
  | consul client => exact absurd rfl (hLocal client)

/-! ## Reading integers -/

/-- A text that is read as an integer is answered as the one that it writes. If it writes none for
which there is room, the answer says so and quotes it. -/
theorem getInt_cases {text : String} (h : store.get world path = .ok (some text)) :
    (∀ n, store.getInt world path = .ok (some n) ↔
        Decimal.Writes text.toList n ∧ -2 ^ (63 : Nat) ≤ n ∧ n < 2 ^ (63 : Nat)) ∧
      ((¬ ∃ n, Decimal.Writes text.toList n ∧ -2 ^ (63 : Nat) ≤ n ∧ n < 2 ^ (63 : Nat)) →
        store.getInt world path = .error (.conversion path text "integer")) := by
  have hRead : ∀ n, Decimal.readInt? 64 text = some n ↔
      Decimal.Writes text.toList n ∧ -2 ^ (63 : Nat) ≤ n ∧ n < 2 ^ (63 : Nat) := by
    intro n
    rw [Decimal.readInt?_eq_some_iff, Decimal.fitsBits_64_iff]
  rw [getInt, h, Except.ok_bind, convert]
  cases hText : Decimal.readInt? 64 text with
  | some n =>
    refine ⟨fun other => ?_, fun hNone => absurd ⟨n, (hRead n).mp hText⟩ hNone⟩
    rw [← hRead, hText, Except.ok.injEq]
  | none =>
    refine ⟨fun n => ?_, fun _ => rfl⟩
    rw [← hRead, hText]
    simp

theorem getInt32_of_getInt {n : Int} (h : store.getInt world path = .ok (some n)) :
    store.getInt32 world path =
      if -2 ^ (31 : Nat) ≤ n ∧ n < 2 ^ (31 : Nat) then .ok (some n)
      else .error (.conversion path (Decimal.writeInt n) "32-bit integer") := by
  rw [getInt32, h]
  exact if_congr Decimal.fitsBits_32_iff rfl rfl

theorem plain_of_isDigit {c : Char} (h : c.isDigit = true) :
    Ini.isLineEnd c = false ∧ Text.isBlank c = false := by
  have hRange : ∀ n, 48 ≤ n → n < 58 →
      Ini.isLineEnd (Char.ofNat n) = false ∧ Text.isBlank (Char.ofNat n) = false := by
    decide
  rw [Char.isDigit, Bool.and_eq_true, decide_eq_true_iff, decide_eq_true_iff] at h
  have hLow : 48 ≤ c.toNat := UInt32.le_iff_toNat_le.mp h.1
  have hHigh : c.toNat ≤ 57 := UInt32.le_iff_toNat_le.mp h.2
  have hBoth := hRange c.toNat hLow (by omega)
  rwa [Char.ofNat_toNat] at hBoth

/-- Lines can carry what is written for an integer. -/
theorem storableValue_writeInt (n : Int) : Ini.storableValue (Decimal.writeInt n) = true := by
  have hPlain : ∀ c ∈ (Decimal.writeInt n).toList,
      Ini.isLineEnd c = false ∧ Text.isBlank c = false := by
    intro c hMem
    rcases (Decimal.writes_writeInt n).digit_or_sign hMem with hDigit | rfl | rfl
    · exact plain_of_isDigit hDigit
    · decide
    · decide
  refine Ini.storableValue_iff.mpr ⟨fun c hMem => (hPlain c hMem).1, ?_⟩
  refine Text.trimChars_eq_self_iff.mpr ⟨fun c hHead => ?_, fun c hLast => ?_⟩
  · exact (hPlain c (List.mem_of_mem_head? hHead)).2
  · exact (hPlain c (List.mem_of_mem_getLast? hLast)).2

/-- Integers of 64 bits are kept by every store in memory or in a file. Putting one succeeds, or
fails for the same reason, as putting `0` does, whatever it is, and then it is read back; as an
integer of 32 bits it is read back or refused with its text. A text that is found is read as the
integer that it writes, if it writes one of 64 bits, and is refused with itself otherwise. -/
theorem integers_exact (hLocal : ∀ client, store ≠ .consul client) (world : World)
    (path : String) :
    (∀ n : Int, -2 ^ (63 : Nat) ≤ n → n < 2 ^ (63 : Nat) →
      let change := store.assignInt world path n
      change.outcome = (store.assign world path "0").outcome ∧
      (change.outcome = .ok () →
        change.state.1.getInt change.state.2 path = .ok (some n) ∧
        change.state.1.getInt32 change.state.2 path =
          if -2 ^ (31 : Nat) ≤ n ∧ n < 2 ^ (31 : Nat) then .ok (some n)
          else .error (.conversion path (Decimal.writeInt n) "32-bit integer"))) ∧
    ∀ text, store.get world path = .ok (some text) →
      (∀ n, store.getInt world path = .ok (some n) ↔
        Decimal.Writes text.toList n ∧ -2 ^ (63 : Nat) ≤ n ∧ n < 2 ^ (63 : Nat)) ∧
      ((¬ ∃ n, Decimal.Writes text.toList n ∧ -2 ^ (63 : Nat) ≤ n ∧ n < 2 ^ (63 : Nat)) →
        store.getInt world path = .error (.conversion path text "integer")) := by
  refine ⟨fun n hLow hHigh => ?_, fun text hText => getInt_cases hText⟩
  have hVerdict := verdict_put_congr hLocal world path
    ((storableValue_writeInt n).trans (storableValue_writeInt 0).symm)
  rw [put, Change.verdict_committed, put, Change.verdict_committed] at hVerdict
  refine ⟨hVerdict, fun hDone => ?_⟩
  have hPut : store.put world path (Decimal.writeInt n) =
      .ok (store.assignInt world path n).state := by
    change (store.assignInt world path n).committed = _
    rw [Change.committed, hDone]
    rfl
  have hGet := get_of_put hLocal hPut
  have hInt := ((getInt_cases hGet).1 n).mpr ⟨Decimal.writes_writeInt n, hLow, hHigh⟩
  exact ⟨hInt, getInt32_of_getInt hInt⟩

/-- A document in which a number is written with a sign and zeros in front. -/
def counters : JsonFile :=
  { file := "app.json", document := .object [("list", .array [.string "+007"])] }

/-- The least integer of 64 bits is put behind that number. It is too small for 32 bits. -/
theorem integers_exact_least :
    (∀ client, json counters ≠ .consul client) ∧
      (json counters).getInt {} "list/0" = .ok (some 7) ∧
      let change := (json counters).assignInt {} "list/1" (-2 ^ (63 : Nat))
      change.outcome = .ok () ∧
        change.state.1.getInt change.state.2 "list/1" = .ok (some (-2 ^ (63 : Nat))) ∧
        change.state.1.getInt32 change.state.2 "list/1" =
          .error (.conversion "list/1" "-9223372036854775808" "32-bit integer") := by
  have hLocal : ∀ client, json counters ≠ .consul client := fun client h => by cases h
  have hText : (json counters).get {} "list/0" = .ok (some "+007") := by decide +kernel
  have hWrites : Decimal.Writes "+007".toList 7 :=
    .plus (Decimal.digits?_eq_some_iff.mp (by rfl : Decimal.digits? "007".toList = some 7)).1
  have hZero : ((json counters).assign {} "list/1" "0").outcome = .ok () := by decide +kernel
  obtain ⟨hPut, hRead⟩ := integers_exact hLocal {} "list/1"
  obtain ⟨hOutcome, hAfter⟩ := hPut (-2 ^ (63 : Nat)) (by decide) (by decide)
  have hDone := hOutcome.trans hZero
  obtain ⟨hInt, hInt32⟩ := hAfter hDone
  have hSeven := (((integers_exact hLocal {} "list/0").2 _ hText).1 7).mpr
    ⟨hWrites, by decide, by decide⟩
  exact ⟨hLocal, hSeven, hDone, hInt, hInt32⟩

end Store

end ConfigStore
