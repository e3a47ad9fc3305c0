import ConfigStore.Proofs.Json.Collecting

/-!
# The scalars of a document by their paths

A scalar of a document is found under every spelling of the positions on the way to it, and it is
listed under one of them.

* `Json.Canonical`: the positions on a path are written without signs and leading zeros.
* `Json.mem_scalars_iff`: a scalar is listed under the canonical path that leads to it, and under no
  other one.
* `JsonFile.subtree_exact`: a read at and below a path never fails, and it finds the scalars whose
  paths go on from the given one canonically. How the given path itself spells its positions makes
  no difference.
-/

namespace ConfigStore.Json

open scoped Decimal

variable {limit : Nat} {value : Json} {path : List String} {text : String}

/-- Every name that leads into an array is a position without a sign and leading zeros. -/
def Canonical : List String → Json → Prop
  | name :: rest, object members =>
    ∀ member, members.lookup name = some member → Canonical rest member
  | name :: rest, array items =>
    Decimal.Canonical name ∧ ∀ position item, Decimal.readIndex? name = some position →
      items[position]? = some item → Canonical rest item
  | _, _ => True

theorem canonical_nil (value : Json) : Canonical [] value := by
  cases value <;> trivial

theorem mem_scalarsOfItems_of_getElem? {start index : Nat} {items : List Json} {item : Json}
    (hItem : items[index]? = some item) {scalar : List String × String}
    (hScalar : scalar ∈ item.scalars) :
    (Decimal.writeNat (start + index) :: scalar.1, scalar.2) ∈ scalarsOfItems start items := by
  induction items generalizing start index with
  | nil => cases hItem
  | cons first rest ih =>
    rw [scalarsOfItems, List.mem_append]
    cases index with
    | zero =>
      cases hItem
      exact .inl (List.mem_map_of_mem hScalar)
    | succ index =>
      have hRest : (Decimal.writeNat (start + 1 + index) :: scalar.1, scalar.2) ∈
          scalarsOfItems (start + 1) rest := ih hItem
      rw [Nat.add_right_comm, Nat.add_assoc] at hRest
      exact .inr hRest

theorem mem_scalarsOfMembers_of_mem {members : List (String × Json)} {member : String × Json}
    (hMember : member ∈ members) {scalar : List String × String}
    (hScalar : scalar ∈ member.2.scalars) :
    (member.1 :: scalar.1, scalar.2) ∈ scalarsOfMembers members := by
  induction members with
  | nil => cases hMember
  | cons first rest ih =>
    rw [scalarsOfMembers, List.mem_append]
    rcases List.mem_cons.mp hMember with rfl | hMember
    · exact .inl (List.mem_map_of_mem hScalar)
    · exact .inr (ih hMember)

/-- Scalars are listed under canonical paths. -/
theorem canonical_of_mem_scalars (hLimit : limit ≤ 2 ^ (64 : Nat)) (hSound : value.Sound limit)
    (h : (path, text) ∈ value.scalars) : Canonical path value := by
  induction value using inductionOn generalizing path with
  | null => simp [scalars] at h
  | bool | number | string =>
    rw [scalars, List.mem_singleton] at h
    cases h
    exact canonical_nil _
  | array items ih =>
    obtain ⟨hLength, hItems⟩ := hSound.items
    rw [scalars] at h
    obtain ⟨index, item, inner, hItem, hInner, hEq⟩ := mem_scalarsOfItems h
    cases hEq
    rw [Nat.zero_add]
    refine ⟨Decimal.canonical_writeNat index, ?_⟩
    intro position found hName hFound
    have hIndex : index < items.length := (List.getElem?_eq_some_iff.mp hItem).1
    rw [Decimal.readIndex?_writeNat (by omega)] at hName
    cases hName
    cases hItem.symm.trans hFound
    have hMem : item ∈ items := List.mem_of_getElem? hItem
    exact ih item hMem (hItems item hMem) hInner
  | object members ih =>
    obtain ⟨hSorted, hMembers⟩ := hSound.members
    rw [scalars] at h
    obtain ⟨member, hMember, inner, hInner, hEq⟩ := mem_scalarsOfMembers h
    cases hEq
    intro found hFound
    rw [(Entries.lookup_eq_some_iff_mem hSorted).mpr hMember] at hFound
    cases hFound
    exact ih member hMember (hMembers member hMember) hInner

/-- A scalar at the end of a canonical path is listed. -/
theorem mem_scalars_of_canonical (h : textAt? path value = some text)
    (hCanonical : Canonical path value) : (path, text) ∈ value.scalars := by
  induction path generalizing value with
  | nil =>
    cases value with
    | null | array | object => cases h
    | bool | number | string =>
      cases h
      rw [scalars]
      exact List.mem_singleton.mpr rfl
  | cons name rest ih =>
    cases value with
    | null | bool | number | string => cases h
    | array items =>
      obtain ⟨hName, hRest⟩ := hCanonical
      rw [textAt?, get?] at h
      obtain ⟨found, hFound, hText⟩ := Option.bind_eq_some_iff.mp h
      obtain ⟨position, hPosition, hItem⟩ := Option.bind_eq_some_iff.mp hFound
      obtain ⟨item, hItem, hGet⟩ := Option.bind_eq_some_iff.mp hItem
      have hScalar : (rest, text) ∈ item.scalars :=
        ih (by rw [textAt?, hGet, Option.bind_some, hText]) (hRest position item hPosition hItem)
      rw [Decimal.eq_writeNat_of_readIndex? hName hPosition, scalars, ← Nat.zero_add position]
      exact mem_scalarsOfItems_of_getElem? hItem hScalar
    | object members =>
      rw [textAt?, get?] at h
      obtain ⟨found, hFound, hText⟩ := Option.bind_eq_some_iff.mp h
      obtain ⟨member, hMember, hGet⟩ := Option.bind_eq_some_iff.mp hFound
      have hScalar : (rest, text) ∈ member.scalars :=
        ih (by rw [textAt?, hGet, Option.bind_some, hText]) (hCanonical member hMember)
      rw [scalars]
      exact mem_scalarsOfMembers_of_mem (Entries.mem_of_lookup_eq_some hMember) hScalar

/-- The listed scalars are those at the ends of canonical paths. -/
theorem mem_scalars_iff (hLimit : limit ≤ 2 ^ (64 : Nat)) (hSound : value.Sound limit) :
    (path, text) ∈ value.scalars ↔ Canonical path value ∧ textAt? path value = some text :=
  ⟨fun h => ⟨canonical_of_mem_scalars hLimit hSound h, textAt?_of_mem_scalars hLimit hSound h⟩,
    fun h => mem_scalars_of_canonical h.2 h.1⟩

end ConfigStore.Json

namespace ConfigStore.JsonFile

open scoped Decimal

/-- A read at and below a path never fails, and none of its insertions does. A path leads to a leaf
if and only if it is not empty, goes on from the given path with canonical positions, and leads to a
scalar of the document, whose text is the value of the leaf. Documents are those whose members are
in name order and whose positions have room in 64 bits. -/
theorem subtree_exact {store : JsonFile} (hSound : store.document.Sound (2 ^ (64 : Nat)))
    (path : String) :
    ∃ tree, store.subtree path = .ok tree ∧ tree.separator = store.scope.separator ∧
      ∀ other text, tree.get? other = some (.leaf text) ↔
        other ≠ [] ∧
        (∃ start rest, Json.get? (store.scope.resolve path) store.document = some start ∧
          other = store.scope.split path ++ rest ∧ Json.Canonical rest start) ∧
        ∃ found, Json.get? (store.scope.root ++ other) store.document = some found ∧
          found.scalarText? = some text := by
  have hPlace : ∀ rest, store.scope.root ++ (store.scope.split path ++ rest) =
      store.scope.resolve path ++ rest := by
    intro rest
    rw [Scope.resolve, List.append_assoc]
  rw [subtree]
  cases hGet : Json.get? (store.scope.resolve path) store.document with
  | none =>
    refine ⟨Tree.empty store.scope.separator, rfl, rfl, fun other text => ?_⟩
    rw [Tree.get?, ← Node.valueAt?_eq_some_iff, Tree.valueAt?_empty]
    refine iff_of_false (by simp) ?_
    rintro ⟨-, ⟨start, rest, hStart, -⟩, -⟩
    cases hStart
  | some start =>
    have hStart : start.Sound (2 ^ (64 : Nat)) := hSound.get? hGet
    obtain ⟨tree, hTree, hSeparator, hValues⟩ := Json.exists_collect (Nat.le_refl _) hStart
      (store.scope.split path) store.scope.separator
    refine ⟨tree, hTree, hSeparator, fun other text => ?_⟩
    have hFound : ∀ rest, (∃ found,
        Json.get? (store.scope.root ++ (store.scope.split path ++ rest)) store.document =
          some found ∧ found.scalarText? = some text) ↔ Json.textAt? rest start = some text := by
      intro rest
      rw [hPlace, Json.get?_append, hGet, Option.bind_some, Json.textAt?, Option.bind_eq_some_iff]
    rw [Tree.get?, ← Node.valueAt?_eq_some_iff, hValues]
    apply and_congr_right
    intro _
    constructor
    · rintro ⟨rest, rfl, hScalar⟩
      obtain ⟨hCanonical, hText⟩ := (Json.mem_scalars_iff (Nat.le_refl _) hStart).mp hScalar
      exact ⟨⟨start, rest, rfl, rfl, hCanonical⟩, (hFound rest).mpr hText⟩
    · rintro ⟨⟨other, rest, hOther, rfl, hCanonical⟩, hScalar⟩
      cases hOther
      exact ⟨rest, rfl, (Json.mem_scalars_iff (Nat.le_refl _) hStart).mpr
        ⟨hCanonical, (hFound rest).mp hScalar⟩⟩

/-- A file whose document has an array of an array. -/
def nested : JsonFile :=
  { file := "app.json",
    document := .object [("rows", .array [.array [.string "first", .bool false]])] }

theorem sound_nested : nested.document.Sound (2 ^ (64 : Nat)) :=
  .object (by decide) (by simp [Json.Sound.array, Json.Sound.string, Json.Sound.bool])

/-- A read at `rows/+0` finds the items of the inner array under this spelling, and each of them
under one position only. -/
theorem subtree_exact_nested :
    nested.document.Sound (2 ^ (64 : Nat)) ∧ ∃ tree, nested.subtree "rows/+0" = .ok tree ∧
      tree.get? ["rows", "+0", "1"] = some (.leaf "false") ∧
      tree.get? ["rows", "+0", "01"] ≠ some (.leaf "false") := by
  obtain ⟨tree, hTree, -, hLeaves⟩ := subtree_exact sound_nested "rows/+0"
  have hStart : Json.get? (nested.scope.resolve "rows/+0") nested.document =
      some (.array [.string "first", .bool false]) := rfl
  refine ⟨sound_nested, tree, hTree, ?_, fun hLeaf => ?_⟩
  · apply (hLeaves _ _).mpr
    refine ⟨by simp, ⟨_, ["1"], hStart, rfl, ?_⟩, .bool false, rfl, rfl⟩
    exact ⟨by decide, fun _ item _ _ => Json.canonical_nil item⟩
  · obtain ⟨-, ⟨start, rest, hGet, hOther, hCanonical⟩, -⟩ := (hLeaves _ _).mp hLeaf
    cases hStart.symm.trans hGet
    obtain rfl : ["01"] = rest := (List.cons.inj (List.cons.inj hOther).2).2
    exact absurd hCanonical.1 (by decide)

end ConfigStore.JsonFile
