import ConfigStore.NameMap
import Mathlib.Data.List.Perm.Basic

/-!
# Entries as a function of the name

Entries in name order are determined by what is found under each name.

* `Entries.lookup_eq_some_iff_mem`: looking up is membership.
* `Entries.eq_of_lookup_eq`: entries under which the same is found are the same, so that
  `Entries.insert_eq_self` needs no induction.
* `Entries.insert_insert_self`, `Entries.insert_comm`: insertions under one name, and under two.
* `Entries.mem_front_iff`: what stands in front of an entry are the smaller names.
-/

namespace ConfigStore.Entries

variable {α : Type} {name : String} {entries : Entries α}

theorem lookup_eq_some_iff_mem (h : Sorted entries) {value : α} :
    entries.lookup name = some value ↔ (name, value) ∈ entries := by
  induction entries with
  | nil => simp
  | cons first rest ih =>
    obtain ⟨hFirst, hRest⟩ := List.pairwise_cons.mp h
    by_cases hName : name = first.1
    · subst hName
      rw [List.lookup_cons, beq_self_eq_true]
      constructor
      · intro hValue
        cases hValue
        exact List.mem_cons_self
      · intro hMem
        rcases List.mem_cons.mp hMem with hEq | hMem
        · exact congrArg (some ·.2) hEq.symm
        · exact absurd (hFirst _ hMem) (String.lt_irrefl first.1)
    · rw [List.lookup_cons, beq_eq_false_iff_ne.mpr hName, List.mem_cons]
      refine (ih hRest).trans ⟨.inr, ?_⟩
      rintro (hEq | hMem)
      · exact absurd (congrArg Prod.fst hEq) hName
      · exact hMem

theorem lookup_eq_find? {κ : Type} [DecidableEq κ] [BEq κ] [LawfulBEq κ] (entries : List (κ × α))
    (key : κ) : entries.lookup key = (entries.find? fun entry => entry.1 = key).map Prod.snd := by
  induction entries with
  | nil => rfl
  | cons entry rest ih =>
    rw [List.lookup_cons, List.find?_cons]
    by_cases hKey : entry.1 = key
    · rw [hKey, beq_self_eq_true, decide_eq_true rfl]
      rfl
    · rw [beq_eq_false_iff_ne.mpr (Ne.symm hKey), decide_eq_false hKey]
      exact ih

/-- Of the entries of a key the last one is found if they are searched from the end. -/
theorem lookup_reverse_cons {κ : Type} [DecidableEq κ] [BEq κ] [LawfulBEq κ] (entry : κ × α)
    (rest : List (κ × α)) (key : κ) :
    (entry :: rest).reverse.lookup key =
      (rest.reverse.lookup key).or (if key = entry.1 then some entry.2 else none) := by
  rw [List.reverse_cons, List.lookup_append, List.lookup_cons, List.lookup_nil]
  congr 1
  by_cases hKey : key = entry.1
  · rw [if_pos hKey, beq_iff_eq.mpr hKey]
  · rw [if_neg hKey, beq_eq_false_iff_ne.mpr hKey]

theorem nodup_of_sorted (h : Sorted entries) : entries.Nodup := by
  apply h.imp
  rintro a b hLt rfl
  exact String.lt_irrefl a.1 hLt

/-- Entries under which the same is found are the same. -/
theorem eq_of_lookup_eq {a b : Entries α} (ha : Sorted a) (hb : Sorted b)
    (h : ∀ name, a.lookup name = b.lookup name) : a = b := by
  have hPerm : a.Perm b := by
    apply (List.perm_ext_iff_of_nodup (nodup_of_sorted ha) (nodup_of_sorted hb)).mpr
    rintro ⟨name, value⟩
    rw [← lookup_eq_some_iff_mem ha, ← lookup_eq_some_iff_mem hb, h]
  refine hPerm.eq_of_pairwise ?_ ha hb
  intro x y _ _ hxy hyx
  exact absurd (String.lt_trans hxy hyx) (String.lt_irrefl x.1)

/-- Nothing changes when a name is given the value that it has. -/
theorem insert_eq_self (h : Sorted entries) {value : α}
    (hValue : entries.lookup name = some value) : insert name value entries = entries := by
  apply eq_of_lookup_eq (sorted_insert h) h
  intro other
  by_cases hName : other = name
  · rw [hName, lookup_insert_self, hValue]
  · exact lookup_insert_of_ne hName value entries

/-- The last value of a name counts. -/
theorem insert_insert_self (h : Sorted entries) (first last : α) :
    insert name last (insert name first entries) = insert name last entries := by
  apply eq_of_lookup_eq (sorted_insert (sorted_insert h)) (sorted_insert h)
  intro other
  by_cases hName : other = name
  · rw [hName, lookup_insert_self, lookup_insert_self]
  · rw [lookup_insert_of_ne hName, lookup_insert_of_ne hName, lookup_insert_of_ne hName]

/-- Different names are set in either order. -/
theorem insert_comm (h : Sorted entries) {other : String} (hNe : other ≠ name) (value last : α) :
    insert other last (insert name value entries) =
      insert name value (insert other last entries) := by
  apply eq_of_lookup_eq (sorted_insert (sorted_insert h)) (sorted_insert (sorted_insert h))
  intro found
  by_cases hName : found = name
  · subst hName
    rw [lookup_insert_of_ne hNe.symm, lookup_insert_self, lookup_insert_self]
  · rw [lookup_insert_of_ne hName]
    by_cases hOther : found = other
    · rw [hOther, lookup_insert_self, lookup_insert_self]
    · rw [lookup_insert_of_ne hOther, lookup_insert_of_ne hOther, lookup_insert_of_ne hName]

/-- A name behind all others is put at the end. -/
theorem insert_eq_concat (h : ∀ entry ∈ entries, entry.1 < name) (value : α) :
    insert name value entries = entries ++ [(name, value)] := by
  induction entries with
  | nil => rfl
  | cons first rest ih =>
    have hFirst := h first List.mem_cons_self
    have hNotLt : ¬ name < first.1 := fun hLt =>
      String.lt_irrefl _ (String.lt_trans hFirst hLt)
    have hNe : name ≠ first.1 := fun hEq => String.lt_irrefl _ (hEq ▸ hFirst)
    rw [insert, if_neg hNotLt, if_neg hNe, List.cons_append,
      ih fun entry hMem => h entry (List.mem_cons_of_mem _ hMem)]

/-- Entries in front of another one are those with smaller names. -/
theorem mem_front_iff {front behind : Entries α} {first entry : String × α}
    (h : Sorted (front ++ first :: behind)) :
    entry ∈ front ↔ entry ∈ front ++ first :: behind ∧ entry.1 < first.1 := by
  obtain ⟨-, hBehind, hFront⟩ := List.pairwise_append.mp h
  rw [List.pairwise_cons] at hBehind
  constructor
  · intro hEntry
    exact ⟨List.mem_append_left _ hEntry, hFront entry hEntry first List.mem_cons_self⟩
  · rintro ⟨hEntry, hLess⟩
    rcases List.mem_append.mp hEntry with hEntry | hEntry
    · exact hEntry
    · rcases List.mem_cons.mp hEntry with rfl | hEntry
      · exact absurd hLess (String.lt_irrefl _)
      · exact absurd (String.lt_trans hLess (hBehind.1 entry hEntry)) (String.lt_irrefl _)

end ConfigStore.Entries
