import ConfigStore.Consul.Client
import ConfigStore.Proofs.Consul.Records
import ConfigStore.Proofs.Tree.Flattening

/-!
# Two readings of a listing

What an agent lists at and below a path is read as a tree or as a map. The tree keeps the values
by path, in the order of paths; the map keeps them by key, in the order of the listing.

* `ConsulClient.lastUnder` is the value of the last entry with a key.
* `ConsulClient.clean_of_list`: no listed name holds the default separator.
* `ConsulClient.flatten_of_subtree`: what the map holds where there is a tree. It is the flattened
  tree if flattening loses no value, in particular for the default separator.
-/

namespace ConfigStore

namespace ConsulClient

open Consul

/-- The value of the last entry whose path is joined to a key. -/
def lastUnder (separator : Char) (key : String) (entries : List (List String × String)) :
    Option String :=
  (entries.reverse.find? fun entry => Path.join separator entry.1 = key).map Prod.snd

theorem lookup_entryOf (separator : Char) (key : String) (entries : List (List String × String)) :
    (entries.map (Tree.entryOf separator)).reverse.lookup key =
      lastUnder separator key entries := by
  rw [Entries.lookup_eq_find?, lastUnder, ← List.map_reverse, List.find?_map, Option.map_map]
  rfl

theorem get?_mapOf (separator : Char) (values : List (List String × String)) (key : String) :
    (mapOf separator values).get? key = lastUnder separator key (placed values) := by
  rw [← lookup_entryOf, mapOf, NameMap.get?_ofList]
  rfl

theorem get?_flatten_eq (tree : Tree) (key : String) :
    tree.flatten.get? key = lastUnder tree.separator key tree.root.leaves := by
  rw [← lookup_entryOf, Tree.get?_flatten]

variable {separator : Char} {values : List (List String × String)} {tree : Tree}

/-- The leaves of the tree of a listing: of the values of a path the last one. -/
theorem mem_leaves_treeOf (h : treeOf separator values = .ok tree)
    {path : List String} {value : String} :
    (path, value) ∈ tree.root.leaves ↔ (placed values).reverse.lookup path = some value := by
  rw [Node.mem_leaves_iff tree.ordered, Tree.valueAt?_insertAll_eq h, Tree.valueAt?_empty,
    Option.or_none]

theorem mem_placed_of_mem_leaves (h : treeOf separator values = .ok tree)
    {leaf : List String × String} (hLeaf : leaf ∈ tree.root.leaves) : leaf ∈ placed values :=
  List.mem_reverse.mp (Entries.mem_of_lookup_eq_some ((mem_leaves_treeOf h).mp hLeaf))

/-- What the map of a listing holds is the value of a leaf of its tree. -/
theorem exists_leaf_of_get?_mapOf (h : treeOf separator values = .ok tree) {key value : String}
    (hKey : (mapOf separator values).get? key = some value) :
    ∃ leaf ∈ tree.root.leaves, Path.join separator leaf.1 = key ∧ leaf.2 = value := by
  rw [get?_mapOf, lastUnder, Option.map_eq_some_iff] at hKey
  obtain ⟨entry, hFound, hValue⟩ := hKey
  obtain ⟨hEntry, before, after, hSplit, hBefore⟩ := List.find?_eq_some_iff_append.mp hFound
  rw [decide_eq_true_iff] at hEntry
  refine ⟨entry, (mem_leaves_treeOf h).mpr ?_, hEntry, hValue⟩
  apply List.lookup_eq_some_iff.mpr
  refine ⟨before, after, hSplit, fun other hOther => ?_⟩
  -- an entry behind this one has another key, so it has another path
  have hNe := hBefore other hOther
  rw [Bool.not_eq_true', decide_eq_false_iff_not] at hNe
  refine bne_iff_ne.mpr fun hPath => hNe ?_
  rw [← hPath, hEntry]

/-- The map of a listing and its flattened tree have the same keys. -/
theorem isSome_get?_mapOf (h : treeOf separator values = .ok tree) (key : String) :
    ((mapOf separator values).get? key).isSome = (tree.flatten.get? key).isSome := by
  have hSeparator : tree.separator = separator := Tree.separator_insertAll h
  rw [Bool.eq_iff_iff, Tree.isSome_get?_flatten_iff, hSeparator]
  constructor
  · intro hKey
    obtain ⟨value, hValue⟩ := Option.isSome_iff_exists.mp hKey
    obtain ⟨leaf, hLeaf, hJoin, -⟩ := exists_leaf_of_get?_mapOf h hValue
    exact ⟨leaf, hLeaf, hJoin⟩
  · rintro ⟨leaf, hLeaf, hJoin⟩
    exact NameMap.isSome_get?_ofList_iff.mpr (List.mem_map.mpr
      ⟨_, List.mem_map.mpr ⟨leaf, mem_placed_of_mem_leaves h hLeaf, rfl⟩, hJoin⟩)

/-- If flattening the tree of a listing loses no value, it gives the map of the listing. -/
theorem mapOf_eq_flatten (h : treeOf separator values = .ok tree)
    (hKept : tree.flatten.size = tree.size) : mapOf separator values = tree.flatten := by
  have hSeparator : tree.separator = separator := Tree.separator_insertAll h
  apply NameMap.ext_get?
  intro key
  cases hMap : (mapOf separator values).get? key with
  | none =>
    have hSome := isSome_get?_mapOf h key
    rw [hMap, Option.isSome_none] at hSome
    exact (Option.isNone_iff_eq_none.mp (by rw [← Option.not_isSome, ← hSome]; rfl)).symm
  | some value =>
    obtain ⟨leaf, hLeaf, hJoin, rfl⟩ := exists_leaf_of_get?_mapOf h hMap
    have hSome := isSome_get?_mapOf h key
    rw [hMap, Option.isSome_some] at hSome
    obtain ⟨found, hFound⟩ := Option.isSome_iff_exists.mp hSome.symm
    obtain ⟨other, hOther, hOtherJoin, rfl⟩ := Tree.exists_leaf_of_get?_flatten hFound
    rw [hSeparator] at hOtherJoin
    have hEq : leaf = other := by
      apply Tree.size_flatten_eq_iff.mp hKept leaf hLeaf other hOther
      rw [hSeparator, hJoin, hOtherJoin]
    rw [hFound, hEq]

/-- Where every listed name is clean, the tree and the map agree. -/
theorem mapOf_eq_flatten_of_clean (h : treeOf separator values = .ok tree)
    (hClean : ∀ value ∈ values, Path.Clean separator value.1) :
    mapOf separator values = tree.flatten := by
  have hSeparator : tree.separator = separator := Tree.separator_insertAll h
  apply mapOf_eq_flatten h
  have hLeaves : ∀ leaf ∈ tree.root.leaves, Path.Clean tree.separator leaf.1 := by
    intro leaf hLeaf
    rw [hSeparator]
    exact hClean leaf (List.mem_of_mem_filter (mem_placed_of_mem_leaves h hLeaf))
  apply Tree.size_flatten_eq_iff.mpr
  intro leaf hLeaf other hOther hKey
  exact Tree.eq_of_key_eq hLeaf hOther (hLeaves leaf hLeaf) (hLeaves other hOther) hKey

/-! ## Names of a listing -/

/-- What a list of values was read from. -/
theorem list_eq_ok {client : ConsulClient} {agent : Agent} {path : String}
    (h : (client.list path).run agent = .ok values) :
    values = [] ∨ ∃ records, client.readListing path records = .ok values := by
  rw [list, Exchange.send] at h
  split at h
  · cases h
  · rw [Exchange.run] at h
    split at h
    next response hResponse =>
      split at h
      · cases h
        exact .inl rfl
      · split at h
        · cases h
        · split at h
          next records hRecords => exact .inr ⟨records, h⟩
          · cases h
    · cases h

/-- No listed name holds the default separator. -/
theorem clean_of_list {client : ConsulClient} {agent : Agent} {path : String}
    (h : (client.list path).run agent = .ok values) :
    ∀ value ∈ values, Path.Clean defaultSeparator value.1 := by
  intro value hValue
  rcases list_eq_ok h with rfl | ⟨records, hRecords⟩
  · cases hValue
  · obtain ⟨selected, hSelected, hDecode⟩ := Except.exists_of_mem_mapM hRecords hValue
    obtain ⟨record, -, hRecord⟩ := List.mem_filterMap.mp hSelected
    rw [(Selected.decode_eq_ok_iff.mp hDecode).1]
    exact Record.clean_of_select? hRecord

/-- Where the tree of a listing can be read, so can the map, and it has the keys of the flattened
tree with values of its leaves. Under each key the map holds what is listed last, the flattened
tree what is last in the order of paths. They agree where flattening loses no value, in particular
where no listed name holds the separator, and always for the default separator. -/
theorem flatten_of_subtree {client : ConsulClient} {agent : Agent} {path : String} {tree : Tree}
    (h : client.subtree agent path = .ok tree) :
    ∃ values map, (client.list path).run agent = .ok values ∧
      client.flatten agent path = .ok map ∧
      (∀ key, map.get? key = lastUnder client.scope.separator key (placed values) ∧
        tree.flatten.get? key = lastUnder client.scope.separator key tree.root.leaves ∧
        (map.get? key).isSome = (tree.flatten.get? key).isSome) ∧
      (∀ key value, map.get? key = some value → ∃ leaf ∈ tree.root.leaves,
        Path.join client.scope.separator leaf.1 = key ∧ leaf.2 = value) ∧
      (tree.flatten.size = tree.size → map = tree.flatten) ∧
      ((∀ value ∈ values, Path.Clean client.scope.separator value.1) → map = tree.flatten) ∧
      (client.scope.separator = defaultSeparator → map = tree.flatten) := by
  obtain ⟨values, hValues, hTree⟩ := Except.bind_eq_ok_iff.mp h
  have hSeparator : tree.separator = client.scope.separator := Tree.separator_insertAll hTree
  refine ⟨values, mapOf client.scope.separator values, hValues, ?_, fun key => ⟨?_, ?_, ?_⟩,
    fun key value hKey => exists_leaf_of_get?_mapOf hTree hKey, mapOf_eq_flatten hTree,
    mapOf_eq_flatten_of_clean hTree, fun hDefault => ?_⟩
  · rw [flatten, hValues]
    rfl
  · exact get?_mapOf _ _ key
  · rw [get?_flatten_eq, hSeparator]
  · exact isSome_get?_mapOf hTree key
  · apply mapOf_eq_flatten_of_clean hTree
    rw [hDefault]
    exact clean_of_list hValues

/-- An agent that lists the keys `a.b` and `a/b`. -/
def twoKeys : Agent := fun _ =>
  some ⟨200, Utf8.encode
    ("[\x7b\"Key\":\"a.b\",\"Value\":\"MQ==\"\x7d," ++
      "\x7b\"Key\":\"a/b\",\"Value\":\"Mg==\"\x7d]").toList⟩

/-- A client that separates names by dots. -/
def dotted : ConsulClient where
  address :=
    { url :=
        { scheme := "http"
          authority := some { host := some (.name "localhost".toList), port := some defaultPort }
          path := .rooted [[]]
          query := none
          fragment := none }
      isRooted := rfl }
  token := none
  scope := { separator := '.' }

/-- Both keys are read as `a.b`. The map has the value that is listed last, the flattened tree the
one whose path is last. -/
theorem flatten_ne_of_twoKeys :
    ∃ tree map, dotted.subtree twoKeys "" = .ok tree ∧ dotted.flatten twoKeys "" = .ok map ∧
      map.get? "a.b" = some "2" ∧ tree.flatten.get? "a.b" = some "1" ∧ map ≠ tree.flatten := by
  have hValues : (dotted.list "").run twoKeys = .ok [(["a.b"], "1"), (["a", "b"], "2")] :=
    Except.toOption_eq_some_iff.mp (by decide +kernel)
  obtain ⟨tree, hTree, hLeaves⟩ : ∃ tree,
      treeOf '.' [(["a.b"], "1"), (["a", "b"], "2")] = .ok tree ∧
        tree.root.leaves = [(["a", "b"], "2"), (["a.b"], "1")] := by
    apply Except.map_eq_ok_iff.mp
    exact Except.toOption_eq_some_iff.mp (by decide +kernel)
  have hSubtree : dotted.subtree twoKeys "" = .ok tree := by
    rw [subtree, hValues]
    exact hTree
  obtain ⟨values, map, hListed, hMap, hKeys, -⟩ := flatten_of_subtree hSubtree
  cases hValues.symm.trans hListed
  obtain ⟨hMapKey, hTreeKey, -⟩ := hKeys "a.b"
  rw [hLeaves] at hTreeKey
  have hLast : map.get? "a.b" = some "2" := hMapKey.trans (by decide)
  have hOther : tree.flatten.get? "a.b" = some "1" := hTreeKey.trans (by decide)
  refine ⟨tree, map, hSubtree, hMap, hLast, hOther, ?_⟩
  rintro rfl
  exact absurd (hLast.symm.trans hOther) (by decide)

end ConsulClient

end ConfigStore
