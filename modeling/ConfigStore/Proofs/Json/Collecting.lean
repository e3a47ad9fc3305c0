import ConfigStore.Proofs.Json.Reading
import ConfigStore.Proofs.Store.Staging
import ConfigStore.Proofs.Tree.Insertion
import ConfigStore.Proofs.Tree.Leaves

/-!
# What is collected from documents

* `Json.textAt?` is the text of the scalar at the end of a path.
* `Json.textAt?_of_mem_scalars`: every scalar that is listed is found again under its path.
* `Json.exists_collect`: the scalars below any place of a document make up a tree.

A name can be a position of an array in several ways, so that a scalar may be found under other
paths than the listed one.
-/

namespace ConfigStore.Json

open scoped Decimal

variable {limit : Nat} {value : Json} {path : List String} {text : String}

/-- The text of the scalar at the end of a path. -/
def textAt? (path : List String) (value : Json) : Option String :=
  (get? path value).bind scalarText?

theorem get?_append (path rest : List String) (value : Json) :
    get? (path ++ rest) value = (get? path value).bind (get? rest) := by
  induction path generalizing value with
  | nil => simp [get?]
  | cons name path ih =>
    rw [List.cons_append]
    cases value with
    | null | bool | number | string => simp [get?]
    | array items => simp [get?, ih, Option.bind_assoc]
    | object members => simp [get?, ih, Option.bind_assoc]

theorem textAt?_append (path rest : List String) (value : Json) :
    textAt? (path ++ rest) value = (get? path value).bind (textAt? rest) := by
  rw [textAt?, get?_append, Option.bind_assoc]
  rfl

/-- No path leads on from a scalar. -/
theorem eq_nil_of_textAt?_append {rest : List String} {found : String}
    (h : textAt? path value = some text) (hRest : textAt? (path ++ rest) value = some found) :
    rest = [] := by
  obtain ⟨scalar, hScalar, hText⟩ := Option.bind_eq_some_iff.mp h
  rw [textAt?_append, hScalar, Option.bind_some] at hRest
  cases rest with
  | nil => rfl
  | cons name rest => cases scalar <;> simp [scalarText?, textAt?, get?] at hText hRest

theorem not_clashes {other : List String} {found : String} (h : textAt? path value = some text)
    (hOther : textAt? other value = some found) : ¬ Path.Clashes path other := by
  rintro ⟨hNe, ⟨rest, rfl⟩ | ⟨rest, rfl⟩⟩
  · exact hNe (by rw [eq_nil_of_textAt?_append h hOther, List.append_nil])
  · exact hNe (by rw [eq_nil_of_textAt?_append hOther h, List.append_nil])

theorem Sound.get? {part : Json} (h : value.Sound limit) (hGet : get? path value = some part) :
    part.Sound limit := by
  induction path generalizing value with
  | nil =>
    cases hGet
    exact h
  | cons name rest ih =>
    cases value with
    | null | bool | number | string => cases hGet
    | array items =>
      obtain ⟨index, -, hItem⟩ := Option.bind_eq_some_iff.mp hGet
      obtain ⟨item, hItem, hGet⟩ := Option.bind_eq_some_iff.mp hItem
      exact ih (h.items.2 item (List.mem_of_getElem? hItem)) hGet
    | object members =>
      obtain ⟨member, hMember, hGet⟩ := Option.bind_eq_some_iff.mp hGet
      exact ih (h.members.2 (name, member) (Entries.mem_of_lookup_eq_some hMember)) hGet

/-! ## Scalars -/

theorem mem_scalarsOfItems {start : Nat} {items : List Json} {scalar : List String × String}
    (h : scalar ∈ scalarsOfItems start items) :
    ∃ index item inner, items[index]? = some item ∧ inner ∈ item.scalars ∧
      scalar = (Decimal.writeNat (start + index) :: inner.1, inner.2) := by
  induction items generalizing start with
  | nil => simp [scalarsOfItems] at h
  | cons first rest ih =>
    rw [scalarsOfItems, List.mem_append, List.mem_map] at h
    rcases h with ⟨inner, hInner, rfl⟩ | h
    · exact ⟨0, first, inner, rfl, hInner, rfl⟩
    · obtain ⟨index, item, inner, hItem, hInner, rfl⟩ := ih h
      refine ⟨index + 1, item, inner, hItem, hInner, ?_⟩
      rw [Nat.add_right_comm, Nat.add_assoc]

theorem mem_scalarsOfMembers {members : List (String × Json)} {scalar : List String × String}
    (h : scalar ∈ scalarsOfMembers members) :
    ∃ member ∈ members, ∃ inner ∈ member.2.scalars, scalar = (member.1 :: inner.1, inner.2) := by
  induction members with
  | nil => simp [scalarsOfMembers] at h
  | cons first rest ih =>
    rw [scalarsOfMembers, List.mem_append, List.mem_map] at h
    rcases h with ⟨inner, hInner, rfl⟩ | h
    · exact ⟨first, List.mem_cons_self, inner, hInner, rfl⟩
    · obtain ⟨member, hMember, inner, hInner, rfl⟩ := ih h
      exact ⟨member, List.mem_cons_of_mem _ hMember, inner, hInner, rfl⟩

/-- A scalar is found again under its path, as long as positions have room in 64 bits. -/
theorem textAt?_of_mem_scalars (hLimit : limit ≤ 2 ^ (64 : Nat)) (hSound : value.Sound limit)
    (h : (path, text) ∈ value.scalars) : textAt? path value = some text := by
  induction value using inductionOn generalizing path with
  | null => simp [scalars] at h
  | bool | number | string =>
    rw [scalars, List.mem_singleton] at h
    cases h
    rfl
  | array items ih =>
    obtain ⟨hLength, hItems⟩ := hSound.items
    rw [scalars] at h
    obtain ⟨index, item, inner, hItem, hInner, hEq⟩ := mem_scalarsOfItems h
    cases hEq
    have hMem : item ∈ items := List.mem_of_getElem? hItem
    have hIndex : index < items.length := (List.getElem?_eq_some_iff.mp hItem).1
    have hName : Decimal.readIndex? (Decimal.writeNat (0 + index)) = some index := by
      rw [Nat.zero_add]
      exact Decimal.readIndex?_writeNat (by omega)
    have hFound := ih item hMem (hItems item hMem) hInner
    simp only [textAt?, get?, hName, hItem, Option.bind_some]
    exact hFound
  | object members ih =>
    obtain ⟨hSorted, hMembers⟩ := hSound.members
    rw [scalars] at h
    obtain ⟨member, hMember, inner, hInner, hEq⟩ := mem_scalarsOfMembers h
    cases hEq
    have hName : members.lookup member.1 = some member.2 :=
      (Entries.lookup_eq_some_iff_mem hSorted).mpr hMember
    have hFound := ih member hMember (hMembers member hMember) hInner
    simp only [textAt?, get?, hName, Option.bind_some]
    exact hFound

/-- The text of the scalar at the end of a path that starts with `above`. -/
def textBelow? (above : List String) (value : Json) (path : List String) : Option String :=
  (Path.below? above path).bind fun rest => textAt? rest value

theorem textBelow?_eq_some_iff {above : List String} :
    textBelow? above value path = some text ↔
      ∃ rest, path = above ++ rest ∧ textAt? rest value = some text := by
  simp only [textBelow?, Option.bind_eq_some_iff, Path.below?_eq_some_iff]

theorem not_clashes_below {above other : List String} {found : String}
    (h : textBelow? above value path = some text)
    (hOther : textBelow? above value other = some found) : ¬ Path.Clashes path other := by
  obtain ⟨rest, rfl, hText⟩ := textBelow?_eq_some_iff.mp h
  obtain ⟨last, rfl, hFound⟩ := textBelow?_eq_some_iff.mp hOther
  rintro ⟨hNe, hPrefix⟩
  rw [List.prefix_append_right_inj, List.prefix_append_right_inj] at hPrefix
  exact not_clashes hText hFound ⟨fun hEq => hNe (by rw [hEq]), hPrefix⟩

/-- The scalars below a place of a document make up a tree, each under its own path. -/
theorem exists_collect (hLimit : limit ≤ 2 ^ (64 : Nat)) (hSound : value.Sound limit)
    (above : List String) (separator : Char) :
    ∃ tree, value.collect above separator = .ok tree ∧ tree.separator = separator ∧
      ∀ path text, tree.root.valueAt? path = some text ↔
        path ≠ [] ∧ ∃ rest, path = above ++ rest ∧ (rest, text) ∈ value.scalars := by
  have hListed : ∀ path text, (path, text) ∈ ((value.scalars.map fun scalar =>
      (above ++ scalar.1, scalar.2)).filter fun scalar => scalar.1 ≠ []) ↔
      path ≠ [] ∧ ∃ rest, path = above ++ rest ∧ (rest, text) ∈ value.scalars := by
    intro path text
    rw [List.mem_filter, List.mem_map, and_comm, decide_eq_true_iff]
    apply and_congr_right
    intro _
    constructor
    · rintro ⟨⟨rest, found⟩, hScalar, hEq⟩
      cases hEq
      exact ⟨rest, rfl, hScalar⟩
    · rintro ⟨rest, rfl, hScalar⟩
      exact ⟨(rest, text), hScalar, rfl⟩
  have hEntries : ∀ entry ∈ (value.scalars.map fun scalar =>
      (above ++ scalar.1, scalar.2)).filter fun scalar => scalar.1 ≠ [],
      entry.1 ≠ [] ∧ textBelow? above value entry.1 = some entry.2 := by
    intro entry hEntry
    obtain ⟨hPath, rest, hRest, hScalar⟩ := (hListed _ _).mp hEntry
    have hText := textAt?_of_mem_scalars hLimit hSound hScalar
    exact ⟨hPath, textBelow?_eq_some_iff.mpr ⟨rest, hRest, hText⟩⟩
  have hFilled : (Tree.empty separator).root.Filled := Node.filled_empty
  obtain ⟨tree, hTree, hSeparator, -, hIff⟩ := Tree.exists_insertAll
    (fun _ _ _ _ hText hFound => not_clashes_below hText hFound) hFilled (by simp) hEntries
  refine ⟨tree, hTree, hSeparator, fun path text => ?_⟩
  rw [hIff, Tree.valueAt?_empty, or_iff_right (by simp), hListed]

end ConfigStore.Json

namespace ConfigStore.JsonFile

open scoped Decimal

variable {store : JsonFile} {limit : Nat}

theorem sound_of_load {disk : Disk} {file : String}
    (hText : ∀ text, disk.read file = .ok text → text.length ≤ limit)
    (h : load disk file = .ok store) : store.document.Sound limit := by
  obtain ⟨document, hDocument, rfl⟩ := Except.map_eq_ok_iff.mp h
  rw [readDocument] at hDocument
  split at hDocument
  next text hRead =>
    exact (Json.sound_of_read (Except.mapError_eq_ok_iff.mp hDocument)).mono (hText text hRead)
  · cases hDocument
    exact Json.sound_empty
  · cases hDocument

/-- What a put that succeeds does to the document and to the disk. -/
theorem put_eq_ok_iff {disk : Disk} {path value : String} {next : JsonFile × Disk} :
    store.put disk path value = .ok next ↔
      store.document.set (store.scope.resolve path) value = .ok next.1.document ∧
      disk.write store.file next.1.document.pretty = .ok next.2 ∧
      next.1 = { store with document := next.1.document } := by
  rw [put_eq, Except.bind_eq_ok_iff]
  constructor
  · rintro ⟨document, hDocument, h⟩
    obtain ⟨written, hWritten, h⟩ := Except.bind_eq_ok_iff.mp h
    cases h
    exact ⟨Except.mapError_eq_ok_iff.mp hDocument, Except.mapError_eq_ok_iff.mp hWritten, rfl⟩
  · obtain ⟨changed, written⟩ := next
    rintro ⟨hDocument, hWritten, hChanged⟩
    refine ⟨changed.document, Except.mapError_eq_ok_iff.mpr hDocument, ?_⟩
    refine Except.bind_eq_ok_iff.mpr ⟨written, Except.mapError_eq_ok_iff.mpr hWritten, ?_⟩
    exact congrArg Except.ok (Prod.ext hChanged.symm rfl)

theorem sound_put {disk : Disk} {path value : String} {next : JsonFile × Disk}
    (hLimit : 2 ^ (64 : Nat) ≤ limit) (hSound : store.document.Sound limit)
    (h : store.put disk path value = .ok next) : next.1.document.Sound limit := by
  obtain ⟨hSet, -, -⟩ := put_eq_ok_iff.mp h
  rw [Json.set_eq_overwrite] at hSet
  split at hSet
  · cases hSet
  · exact hSound.overwrite hLimit hSet

/-- A document is read as a tree at every path, whose leaves are found under their paths. -/
theorem exists_subtree (hLimit : limit ≤ 2 ^ (64 : Nat)) (hSound : store.document.Sound limit)
    (path : String) :
    ∃ tree, store.subtree path = .ok tree ∧ tree.separator = store.scope.separator ∧
      ∀ leaf ∈ tree.root.leaves, ∃ rest, leaf.1 = store.scope.split path ++ rest ∧
        Json.textAt? (store.scope.root ++ leaf.1) store.document = some leaf.2 := by
  rw [subtree]
  cases hGet : Json.get? (store.scope.resolve path) store.document with
  | none => exact ⟨_, rfl, rfl, by simp [Tree.empty, Node.empty, Node.leaves_branch]⟩
  | some value =>
    have hValue : value.Sound limit := hSound.get? hGet
    obtain ⟨tree, hTree, hSeparator, hLeaves⟩ :=
      Json.exists_collect hLimit hValue (store.scope.split path) store.scope.separator
    refine ⟨tree, hTree, hSeparator, ?_⟩
    rintro ⟨other, text⟩ hLeaf
    rw [Node.mem_leaves_iff tree.ordered, hLeaves] at hLeaf
    obtain ⟨-, rest, rfl, hScalar⟩ := hLeaf
    have hText := Json.textAt?_of_mem_scalars hLimit hValue hScalar
    refine ⟨rest, rfl, ?_⟩
    rw [← List.append_assoc]
    change Json.textAt? (store.scope.resolve path ++ rest) store.document = some text
    rw [Json.textAt?_append, hGet, Option.bind_some, hText]

end ConfigStore.JsonFile
