import ConfigStore.Path

/-!
# Splitting and joining paths

* `Path.Clean` holds of segments that are not empty and do not contain the separator: the
  segments that splitting gives (`Path.clean_split`).
* `Path.split_join_iff`: segments are joined and split without loss if and only if they are clean.
* `Path.join_split_iff`: a text is what splitting and joining it gives if and only if it is
  `Path.Joined`.
* `Path.split_join_exact` says both, and that a separator only keeps apart what stands on its two
  sides.
* `Path.extent` counts the characters of the segments. Splitting a text gives as many as the
  text has besides separators (`Path.extent_split`).
-/

namespace ConfigStore.Path

variable {separator : Char}

theorem pieces_eq_splitOn (separator : Char) (text : List Char) :
    pieces separator text = text.splitOn separator := by
  induction text with
  | nil => rfl
  | cons c rest ih =>
    rw [pieces, List.splitOn_cons_eq_if_modifyHead, ih]
    by_cases hEq : c = separator
    · rw [if_pos hEq, if_pos (beq_iff_eq.mpr hEq)]
    · rw [if_neg hEq, if_neg (by simpa using hEq)]
      obtain ⟨first, others, hRest⟩ :=
        List.exists_cons_of_ne_nil (List.splitOn_ne_nil separator rest)
      rw [hRest]
      rfl

theorem pieces_ne_nil (separator : Char) (text : List Char) : pieces separator text ≠ [] := by
  rw [pieces_eq_splitOn]
  exact List.splitOn_ne_nil separator text

theorem notMem_of_mem_pieces {text piece : List Char} (h : piece ∈ pieces separator text) :
    separator ∉ piece := by
  induction text generalizing piece with
  | nil => simp_all [pieces]
  | cons c rest ih =>
    rw [pieces] at h
    split at h
    · rcases List.mem_cons.mp h with rfl | h
      · simp
      · exact ih h
    next hNe =>
      split at h
      · simpa [List.mem_singleton.mp h] using Ne.symm hNe
      next first others hPieces =>
        rcases List.mem_cons.mp h with rfl | h
        · have hFirst : separator ∉ first := ih (by rw [hPieces]; exact List.mem_cons_self)
          simpa [hFirst] using Ne.symm hNe
        · exact ih (by rw [hPieces]; exact List.mem_cons_of_mem _ h)

theorem subset_of_mem_pieces {text piece : List Char} (h : piece ∈ pieces separator text) :
    piece ⊆ text := by
  induction text generalizing piece with
  | nil => simp_all [pieces]
  | cons c rest ih =>
    rw [pieces] at h
    split at h
    · rcases List.mem_cons.mp h with rfl | h
      · simp
      · exact List.Subset.trans (ih h) (List.subset_cons_self c rest)
    · split at h
      · simp [List.mem_singleton.mp h]
      next first others hPieces =>
        rcases List.mem_cons.mp h with rfl | h
        · exact List.cons_subset_cons c (ih (by rw [hPieces]; exact List.mem_cons_self))
        · exact List.Subset.trans (ih (by rw [hPieces]; exact List.mem_cons_of_mem _ h))
            (List.subset_cons_self c rest)

/-! ## Clean segments -/

/-- Segments that are not empty and do not contain the separator. -/
def Clean (separator : Char) (path : List String) : Prop :=
  ∀ name ∈ path, name ≠ "" ∧ separator ∉ name.toList

theorem Clean.append {path rest : List String} (h : Clean separator path)
    (hRest : Clean separator rest) : Clean separator (path ++ rest) := by
  intro name hName
  rcases List.mem_append.mp hName with hName | hName
  · exact h name hName
  · exact hRest name hName

theorem mem_split {name text : String} (h : name ∈ split separator text) :
    name ≠ "" ∧ separator ∉ name.toList ∧ name.toList ⊆ text.toList := by
  obtain ⟨piece, hPiece, rfl⟩ := List.mem_map.mp h
  obtain ⟨hMem, hNe⟩ := List.mem_filter.mp hPiece
  rw [String.toList_ofList]
  refine ⟨?_, notMem_of_mem_pieces hMem, subset_of_mem_pieces hMem⟩
  intro hEmpty
  rw [String.ofList_eq_empty_iff.mp hEmpty] at hNe
  simp at hNe

theorem clean_split (separator : Char) (text : String) : Clean separator (split separator text) :=
  fun _ hName => ⟨(mem_split hName).1, (mem_split hName).2.1⟩

@[simp] theorem toList_join (separator : Char) (path : List String) :
    (join separator path).toList = [separator].intercalate (path.map String.toList) :=
  String.toList_ofList

theorem mem_intercalate {α : Type} {sep : List α} {groups : List (List α)} {a : α}
    (h : a ∈ sep.intercalate groups) : a ∈ sep ∨ ∃ group ∈ groups, a ∈ group := by
  induction groups with
  | nil => cases h
  | cons first rest ih =>
    cases rest with
    | nil => exact .inr ⟨first, List.mem_cons_self, by simpa using h⟩
    | cons second rest =>
      rw [List.intercalate_cons_cons, List.mem_append, List.mem_append] at h
      rcases h with (h | h) | h
      · exact .inr ⟨first, List.mem_cons_self, h⟩
      · exact .inl h
      · apply (ih h).imp_right
        rintro ⟨group, hGroup, hMem⟩
        exact ⟨group, List.mem_cons_of_mem _ hGroup, hMem⟩

theorem mem_intercalate_of_mem {α : Type} (sep : List α) {groups : List (List α)}
    {group : List α} (hGroup : group ∈ groups) {a : α} (h : a ∈ group) :
    a ∈ sep.intercalate groups := by
  induction groups with
  | nil => cases hGroup
  | cons first rest ih =>
    cases rest with
    | nil =>
      rw [List.mem_singleton.mp hGroup] at h
      rwa [List.intercalate_singleton]
    | cons second rest =>
      rw [List.intercalate_cons_cons, List.mem_append]
      rcases List.mem_cons.mp hGroup with rfl | hGroup
      · exact .inl (List.mem_append_left _ h)
      · exact .inr (ih hGroup)

/-- A character of a text is the separator or stands in a piece. -/
theorem exists_mem_pieces {text : List Char} {c : Char} (h : c ∈ text) (hNe : c ≠ separator) :
    ∃ piece ∈ pieces separator text, c ∈ piece := by
  have hText : [separator].intercalate (text.splitOn separator) = text :=
    List.intercalate_splitOn separator
  rw [← hText] at h
  rw [pieces_eq_splitOn]
  exact (mem_intercalate h).resolve_left (mt List.mem_singleton.mp hNe)

/-- A character of a joined text is the separator or stands in a segment. -/
theorem mem_join {path : List String} {c : Char} (h : c ∈ (join separator path).toList) :
    c = separator ∨ ∃ name ∈ path, c ∈ name.toList := by
  rw [toList_join] at h
  rcases mem_intercalate h with h | ⟨text, hText, hMem⟩
  · exact .inl (List.mem_singleton.mp h)
  · obtain ⟨name, hName, rfl⟩ := List.mem_map.mp hText
    exact .inr ⟨name, hName, hMem⟩

/-- The pieces of the text of a clean path are its segments. -/
theorem pieces_join {path : List String} (h : Clean separator path) (hNe : path ≠ []) :
    pieces separator (join separator path).toList = path.map String.toList := by
  rw [toList_join, pieces_eq_splitOn, List.splitOn_intercalate _ _ (by simpa using hNe)]
  intro piece hPiece
  obtain ⟨name, hName, rfl⟩ := List.mem_map.mp hPiece
  exact (h name hName).2

theorem split_join {path : List String} (h : Clean separator path) :
    split separator (join separator path) = path := by
  cases path with
  | nil => rfl
  | cons first rest =>
    have hFilter : ((first :: rest).map String.toList).filter (!·.isEmpty) =
        (first :: rest).map String.toList := by
      apply List.filter_eq_self.mpr
      intro piece hPiece
      obtain ⟨name, hName, rfl⟩ := List.mem_map.mp hPiece
      simpa using (h name hName).1
    rw [split, pieces_join h (by simp), hFilter, List.map_map]
    exact (List.map_congr_left fun name _ => String.ofList_toList).trans (List.map_id _)

/-- Whatever comes out of splitting is clean, so no two faults in a list of names make up for each
other. -/
theorem split_join_iff {path : List String} :
    split separator (join separator path) = path ↔ Clean separator path := by
  constructor
  · intro h
    rw [← h]
    exact clean_split separator (join separator path)
  · exact split_join

/-- Clean paths with one text are the same. -/
theorem eq_of_join_eq {path other : List String} (hClean : Clean separator path)
    (hOther : Clean separator other) (h : join separator path = join separator other) :
    path = other := by
  rw [← split_join hClean, h, split_join hOther]

theorem toList_join_cons (first : String) (rest : List String) :
    (join separator (first :: rest)).toList =
      first.toList ++ rest.flatMap fun name => separator :: name.toList := by
  rw [toList_join]
  induction rest generalizing first with
  | nil => simp
  | cons second rest ih =>
    rw [List.map_cons, List.map_cons, List.intercalate_cons_cons, ← List.map_cons, ih,
      List.flatMap_cons]
    simp

/-- A path that goes on has another text. -/
theorem eq_nil_of_join_append {path rest : List String} (hPath : path ≠ [])
    (h : join separator (path ++ rest) = join separator path) : rest = [] := by
  obtain ⟨first, names, rfl⟩ := List.exists_cons_of_ne_nil hPath
  have hChars := congrArg String.toList h
  rw [List.cons_append, toList_join_cons, toList_join_cons, List.flatMap_append,
    ← List.append_assoc, List.append_right_eq_self] at hChars
  cases rest with
  | nil => rfl
  | cons name rest => cases hChars

/-- The text of a clean path does not end with the separator. -/
theorem exists_getLast?_join {path : List String} (h : Clean separator path) (hNe : path ≠ []) :
    ∃ c, (join separator path).toList.getLast? = some c ∧ c ≠ separator := by
  rw [toList_join]
  induction path with
  | nil => exact absurd rfl hNe
  | cons name rest ih =>
    cases rest with
    | nil =>
      obtain ⟨hName, hSeparator⟩ := h name List.mem_cons_self
      have hChars : name.toList ≠ [] := fun hNil => hName (String.toList_eq_nil_iff.mp hNil)
      refine ⟨name.toList.getLast hChars, ?_, ?_⟩
      · simpa using List.getLast?_eq_some_getLast hChars
      · rintro hLast
        exact hSeparator (hLast ▸ List.getLast_mem hChars)
    | cons second rest =>
      obtain ⟨c, hLast, hOther⟩ :=
        ih (fun other hMem => h other (List.mem_cons_of_mem _ hMem)) (List.cons_ne_nil _ _)
      refine ⟨c, ?_, hOther⟩
      rw [List.map_cons] at hLast ⊢
      rw [List.map_cons, List.intercalate_cons_cons, List.getLast?_append, hLast, Option.some_or]

/-! ## Texts that are joined already -/

/-- The text neither begins nor ends with the separator, and nowhere are there two in a row. -/
def Joined (separator : Char) (text : String) : Prop :=
  text.toList.head? ≠ some separator ∧ text.toList.getLast? ≠ some separator ∧
    ¬ [separator, separator] <:+: text.toList

/-- The first piece is empty if the text is, or begins with the separator. -/
theorem first_piece_eq_nil_iff {text first : List Char} {others : List (List Char)}
    (h : pieces separator text = first :: others) :
    first = [] ↔ text = [] ∨ text.head? = some separator := by
  cases text with
  | nil => simp_all [pieces]
  | cons c rest =>
    obtain ⟨piece, more, hPieces⟩ :=
      List.exists_cons_of_ne_nil (pieces_ne_nil separator rest)
    rw [pieces, hPieces] at h
    split at h <;> cases h <;> simp_all

/-- Behind the first piece, an empty one comes of a separator at the end or of two in a row. -/
theorem forall_tail_pieces_iff {text : List Char} :
    (∀ piece ∈ (pieces separator text).tail, piece ≠ []) ↔
      text.getLast? ≠ some separator ∧ ¬ [separator, separator] <:+: text := by
  induction text with
  | nil => simp [pieces]
  | cons c rest ih =>
    obtain ⟨first, others, hPieces⟩ :=
      List.exists_cons_of_ne_nil (pieces_ne_nil separator rest)
    have hFirst := first_piece_eq_nil_iff hPieces
    rw [hPieces, List.tail_cons] at ih
    rw [pieces, hPieces, List.infix_cons_iff, List.cons_prefix_cons]
    by_cases hEq : c = separator
    · rw [if_pos hEq, List.tail_cons, List.forall_mem_cons, ih, Ne, hFirst]
      cases rest with
      | nil => simp [hEq]
      | cons d rest =>
        rw [List.getLast?_cons_cons, List.cons_prefix_cons]
        simp only [List.head?_cons, Option.some.injEq, List.nil_prefix]
        grind
    · rw [if_neg hEq]
      dsimp only [List.tail_cons]
      rw [ih]
      cases rest with
      | nil => simp [hEq]
      | cons d rest => simp [Ne.symm hEq]

/-- A text that is not empty is joined if and only if none of its pieces is empty. -/
theorem joined_iff {text : String} (h : text ≠ "") :
    Joined separator text ↔ ∀ piece ∈ pieces separator text.toList, piece ≠ [] := by
  obtain ⟨first, others, hPieces⟩ :=
    List.exists_cons_of_ne_nil (pieces_ne_nil separator text.toList)
  have hFirst := first_piece_eq_nil_iff hPieces
  have hOthers : (∀ piece ∈ others, piece ≠ []) ↔ text.toList.getLast? ≠ some separator ∧
      ¬ [separator, separator] <:+: text.toList := by
    rw [← forall_tail_pieces_iff, hPieces, List.tail_cons]
  rw [String.toList_eq_nil_iff, or_iff_right h] at hFirst
  rw [hPieces, List.forall_mem_cons, hOthers, Joined, Ne, Ne, ← hFirst]

/-- Splitting and joining gives a text back if and only if it is joined already. -/
theorem join_split_iff {text : String} :
    join separator (split separator text) = text ↔ Joined separator text := by
  by_cases hText : text = ""
  · subst hText
    simp [split, pieces, join, Joined]
  rw [joined_iff hText]
  constructor
  · intro h piece hPiece
    have hNe : split separator text ≠ [] := by
      intro hNil
      rw [hNil] at h
      exact hText h.symm
    have hPieces := pieces_join (clean_split separator text) hNe
    rw [h] at hPieces
    rw [hPieces] at hPiece
    obtain ⟨name, hName, rfl⟩ := List.mem_map.mp hPiece
    simpa using (mem_split hName).1
  · intro h
    have hFilter : (pieces separator text.toList).filter (!·.isEmpty) =
        pieces separator text.toList :=
      List.filter_eq_self.mpr fun piece hPiece => by simpa using h piece hPiece
    have hMap : ((pieces separator text.toList).map String.ofList).map String.toList =
        pieces separator text.toList := by simp
    rw [split, hFilter, join, hMap, pieces_eq_splitOn, List.intercalate_splitOn,
      String.ofList_toList]

/-- The segments before a separator and those behind it have no influence on each other. -/
theorem split_push_append (separator : Char) (text rest : String) :
    split separator (text.push separator ++ rest) =
      split separator text ++ split separator rest := by
  have hChars : (text.push separator ++ rest).toList =
      text.toList ++ separator :: rest.toList := by simp
  rw [split, hChars, pieces_eq_splitOn, List.splitOn_append_cons_self, List.filter_append,
    List.map_append, ← pieces_eq_splitOn, ← pieces_eq_splitOn, split, split]

/-- Splitting undoes joining exactly on clean paths, and joining undoes splitting exactly on joined
texts. Any other text, too, is split into clean segments, namely those on the two sides of each
separator; it has the same segments as the text that they are joined to. -/
theorem split_join_exact (separator : Char) :
    (∀ path : List String,
      split separator (join separator path) = path ↔ Clean separator path) ∧
    (∀ text : String,
      Clean separator (split separator text) ∧
        split separator (join separator (split separator text)) = split separator text ∧
        (join separator (split separator text) = text ↔ Joined separator text)) ∧
    ∀ text rest : String, split separator (text.push separator ++ rest) =
      split separator text ++ split separator rest := by
  refine ⟨fun path => split_join_iff, ?_, split_push_append separator⟩
  intro text
  have hClean : Clean separator (split separator text) := clean_split separator text
  exact ⟨hClean, split_join hClean, join_split_iff⟩

example : join '/' (split '/' "/a//b/") = "a/b" := by decide +kernel

/-! ## Characters of the segments -/

/-- The number of characters in the segments. -/
def extent (path : List String) : Nat := (path.flatMap String.toList).length

theorem extent_append (path rest : List String) :
    extent (path ++ rest) = extent path + extent rest := by
  rw [extent, List.flatMap_append, List.length_append, extent, extent]

theorem length_flatten_pieces (separator : Char) (text : List Char) :
    (pieces separator text).flatten.length = text.countP (· ≠ separator) := by
  induction text with
  | nil => rfl
  | cons c rest ih =>
    rw [pieces]
    split
    next hEq => simp [hEq, ih]
    next hNe =>
      split
      next hPieces => exact absurd hPieces (pieces_ne_nil separator rest)
      next first others hPieces =>
        rw [hPieces, List.flatten_cons] at ih
        rw [List.flatten_cons, List.countP_cons_of_pos (by simpa using hNe), ← ih,
          List.cons_append, List.length_cons]

theorem extent_split (separator : Char) (text : String) :
    extent (split separator text) = text.toList.countP (· ≠ separator) := by
  rw [← length_flatten_pieces, extent, split, List.flatMap_map]
  induction pieces separator text.toList with
  | nil => rfl
  | cons piece rest ih =>
    cases piece with
    | nil => simpa using ih
    | cons c piece => simpa using ih

/-- A clean path has as many characters as its text has besides separators. -/
theorem extent_eq_countP_join {path : List String} (h : Clean separator path) :
    extent path = (join separator path).toList.countP (· ≠ separator) := by
  rw [← extent_split, split_join h]

end ConfigStore.Path
