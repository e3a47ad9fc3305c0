/-!
# Maps from names

Maps from names are kept as lists of entries in increasing name order, where names are
compared character by character. That order is also the order of their UTF-8 bytes.

* `Entries.insert` sets one name and keeps the order (`Entries.sorted_insert`).
* `Entries.lookup_insert_self`, `Entries.lookup_insert_of_ne`: a name set is found again,
  and no other name is touched.
* `NameMap` is a list of entries with its order; `NameMap.ofList` lets the last pair of a
  name win.
-/

namespace ConfigStore

/-- Pairs of a name and what is stored under it. -/
abbrev Entries (α : Type) := List (String × α)

namespace Entries

variable {α : Type}

/-- The names are strictly increasing, so that none occurs twice. -/
def Sorted (entries : Entries α) : Prop :=
  entries.Pairwise fun a b => a.1 < b.1

instance (entries : Entries α) : Decidable (Sorted entries) :=
  inferInstanceAs (Decidable (entries.Pairwise fun a b => a.1 < b.1))

/-- Store `value` under `name`, in place of what was there. -/
def insert (name : String) (value : α) : Entries α → Entries α
  | [] => [(name, value)]
  | entry :: rest =>
    if name < entry.1 then (name, value) :: entry :: rest
    else if name = entry.1 then (name, value) :: rest
    else entry :: insert name value rest

/-! ## Order -/

theorem mem_insert {name : String} {value : α} {entries : Entries α} {entry : String × α}
    (h : entry ∈ insert name value entries) : entry = (name, value) ∨ entry ∈ entries := by
  induction entries with
  | nil => simpa [insert] using h
  | cons first rest ih =>
    rw [insert] at h
    split at h
    · simpa using h
    · split at h
      · rcases List.mem_cons.mp h with h | h
        · exact .inl h
        · exact .inr (List.mem_cons_of_mem _ h)
      · rcases List.mem_cons.mp h with rfl | h
        · exact .inr List.mem_cons_self
        · exact (ih h).imp id (List.mem_cons_of_mem _)

theorem sorted_insert {name : String} {value : α} {entries : Entries α}
    (h : Sorted entries) : Sorted (insert name value entries) := by
  induction entries with
  | nil => exact List.pairwise_singleton _ _
  | cons first rest ih =>
    have hRest : Sorted rest := (List.pairwise_cons.mp h).2
    have hFirst : ∀ entry ∈ rest, first.1 < entry.1 := (List.pairwise_cons.mp h).1
    rw [insert]
    split
    next hLt =>
      refine List.pairwise_cons.mpr ⟨?_, h⟩
      intro entry hEntry
      rcases List.mem_cons.mp hEntry with rfl | hEntry
      · exact hLt
      · exact String.lt_trans hLt (hFirst entry hEntry)
    next hGe =>
      split
      next hEq =>
        refine List.pairwise_cons.mpr ⟨?_, hRest⟩
        intro entry hEntry
        exact hEq ▸ hFirst entry hEntry
      next hNe =>
        refine List.pairwise_cons.mpr ⟨?_, ih hRest⟩
        intro entry hEntry
        rcases mem_insert hEntry with rfl | hEntry
        · exact Decidable.byContradiction fun hNot =>
            hNe (String.le_antisymm (String.not_lt.mp hNot) (String.not_lt.mp hGe))
        · exact hFirst entry hEntry

/-! ## What is found -/

theorem mem_of_lookup_eq_some {κ : Type} [BEq κ] [LawfulBEq κ] {entries : List (κ × α)} {key : κ}
    {value : α} (h : entries.lookup key = some value) : (key, value) ∈ entries := by
  obtain ⟨before, after, rfl, -⟩ := List.lookup_eq_some_iff.mp h
  simp

theorem lookup_insert_self (name : String) (value : α) (entries : Entries α) :
    (insert name value entries).lookup name = some value := by
  induction entries with
  | nil => simp [insert]
  | cons first rest ih =>
    rw [insert]
    split
    · simp
    · split
      · simp
      next hNe =>
        rw [List.lookup_cons, beq_eq_false_iff_ne.mpr hNe]
        exact ih

theorem lookup_insert_of_ne {name other : String} (h : other ≠ name) (value : α)
    (entries : Entries α) : (insert name value entries).lookup other = entries.lookup other := by
  have hBeq : (other == name) = false := beq_eq_false_iff_ne.mpr h
  induction entries with
  | nil => simp [insert, List.lookup_cons, hBeq]
  | cons first rest ih =>
    rw [insert]
    split
    · rw [List.lookup_cons, hBeq]
    · split
      next hEq => rw [List.lookup_cons, hBeq, List.lookup_cons, ← hEq, hBeq]
      · rw [List.lookup_cons, List.lookup_cons, ih]

end Entries

/-- A map from names to values. -/
structure NameMap (α : Type) where
  entries : Entries α
  sorted : Entries.Sorted entries

namespace NameMap

variable {α : Type}

protected theorem ext {a b : NameMap α} (h : a.entries = b.entries) : a = b := by
  cases a; cases b; cases h; rfl

instance [DecidableEq α] : DecidableEq (NameMap α) := fun a b =>
  decidable_of_iff (a.entries = b.entries) ⟨NameMap.ext, congrArg entries⟩

def empty : NameMap α := ⟨[], List.Pairwise.nil⟩

instance : EmptyCollection (NameMap α) := ⟨empty⟩

/-- Store `value` under `name`, in place of what was there. -/
def insert (map : NameMap α) (name : String) (value : α) : NameMap α :=
  ⟨Entries.insert name value map.entries, Entries.sorted_insert map.sorted⟩

def get? (map : NameMap α) (name : String) : Option α :=
  map.entries.lookup name

/-- The map of the given pairs, where the last pair of a name wins. -/
def ofList (pairs : List (String × α)) : NameMap α :=
  pairs.foldl (fun map pair => map.insert pair.1 pair.2) ∅

def isEmpty (map : NameMap α) : Bool := map.entries.isEmpty

def size (map : NameMap α) : Nat := map.entries.length

@[simp] theorem get?_empty (name : String) : (∅ : NameMap α).get? name = none := rfl

@[simp] theorem get?_insert_self (map : NameMap α) (name : String) (value : α) :
    (map.insert name value).get? name = some value :=
  Entries.lookup_insert_self name value map.entries

theorem get?_insert_of_ne (map : NameMap α) {name other : String} (h : other ≠ name)
    (value : α) : (map.insert name value).get? other = map.get? other :=
  Entries.lookup_insert_of_ne h value map.entries

end NameMap

end ConfigStore
