import ConfigStore.Proofs.Entries
import Mathlib.Data.List.Dedup

/-!
# Maps made of pairs

* `NameMap.get?_ofList`: of the pairs of a name the last one wins.
* `NameMap.size_ofList_eq_iff`: a map has as many entries as it was made of pairs if and only if
  no two of them share a name.
-/

namespace ConfigStore

theorem Entries.isSome_lookup_iff {α : Type} {entries : Entries α} {name : String} :
    (entries.lookup name).isSome = true ↔ name ∈ entries.map Prod.fst := by
  rw [List.lookup_isSome_iff, List.mem_map]
  apply exists_congr
  intro entry
  rw [beq_iff_eq, eq_comm]

namespace NameMap

variable {α : Type}

/-- Maps in which the same is found are the same. -/
theorem ext_get? {a b : NameMap α} (h : ∀ name, a.get? name = b.get? name) : a = b :=
  NameMap.ext (Entries.eq_of_lookup_eq a.sorted b.sorted h)

theorem get?_insert (map : NameMap α) (name : String) (value : α) (other : String) :
    (map.insert name value).get? other = if other = name then some value else map.get? other := by
  split
  next hEq => rw [hEq, get?_insert_self]
  next hNe => exact get?_insert_of_ne map hNe value

/-- What is found after insertions was inserted last under its name, or was there before. -/
theorem get?_foldl_insert (pairs : List (String × α)) (map : NameMap α) (name : String) :
    (pairs.foldl (fun map pair => map.insert pair.1 pair.2) map).get? name =
      (pairs.reverse.lookup name).or (map.get? name) := by
  induction pairs generalizing map with
  | nil => rfl
  | cons pair rest ih =>
    rw [List.foldl_cons, ih, get?_insert, Entries.lookup_reverse_cons, Option.or_assoc]
    congr 1
    split <;> rfl

/-- Of the pairs of a name the last one wins. -/
theorem get?_ofList (pairs : List (String × α)) (name : String) :
    (ofList pairs).get? name = pairs.reverse.lookup name := by
  rw [ofList, get?_foldl_insert, get?_empty, Option.or_none]

theorem mem_of_get?_ofList {pairs : List (String × α)} {name : String} {value : α}
    (h : (ofList pairs).get? name = some value) : (name, value) ∈ pairs := by
  rw [get?_ofList] at h
  exact List.mem_reverse.mp (Entries.mem_of_lookup_eq_some h)

theorem isSome_get?_ofList_iff {pairs : List (String × α)} {name : String} :
    ((ofList pairs).get? name).isSome = true ↔ name ∈ pairs.map Prod.fst := by
  rw [get?_ofList, Entries.isSome_lookup_iff, List.map_reverse, List.mem_reverse]

theorem nodup_names (map : NameMap α) : (map.entries.map Prod.fst).Nodup := by
  refine List.pairwise_map.mpr (map.sorted.imp ?_)
  intro a b hLt hEq
  exact String.lt_irrefl b.1 (hEq ▸ hLt)

/-- A map has as many entries as it was made of pairs if and only if their names differ. -/
theorem size_ofList_eq_iff {pairs : List (String × α)} :
    (ofList pairs).size = pairs.length ↔ (pairs.map Prod.fst).Nodup := by
  have hPerm : ((ofList pairs).entries.map Prod.fst).Perm (pairs.map Prod.fst).dedup := by
    refine (List.perm_ext_iff_of_nodup (nodup_names _) (List.nodup_dedup _)).mpr fun name => ?_
    rw [← Entries.isSome_lookup_iff, ← get?, isSome_get?_ofList_iff, List.mem_dedup]
  have hSize : (ofList pairs).size = (pairs.map Prod.fst).dedup.length := by
    rw [← hPerm.length_eq, List.length_map, size]
  rw [hSize, ← List.length_map Prod.fst, ← List.dedup_eq_self]
  exact ⟨(List.dedup_sublist _).eq_of_length, congrArg List.length⟩

end NameMap

end ConfigStore
