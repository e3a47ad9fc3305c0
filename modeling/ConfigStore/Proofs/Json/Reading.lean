import ConfigStore.Json.Parser
import ConfigStore.Proofs.Decimal
import ConfigStore.Proofs.Json.Assignment

/-!
# What is read

* `Json.readValue_cases`, `Json.finish_cases`: what one step of reading does.
* `Json.Sound` holds of every document that was read (`Json.sound_of_read`): the members of
  objects are in name order, integers have room in 64 bits, and no array has more items than the
  text has characters.
* `Json.Sound.overwrite`: setting strings keeps it.
-/

namespace ConfigStore.Json

open scoped Decimal

/-- A property that goes from items and members to arrays and objects holds of every document. -/
theorem inductionOn {motive : Json → Prop} (value : Json) (null : motive .null)
    (bool : ∀ value, motive (.bool value)) (number : ∀ value, motive (.number value))
    (string : ∀ value, motive (.string value))
    (array : ∀ items, (∀ item ∈ items, motive item) → motive (.array items))
    (object : ∀ members, (∀ member ∈ members, motive member.2) → motive (.object members)) :
    motive value := by
  refine @Json.rec motive (fun items => ∀ item ∈ items, motive item)
    (fun members => ∀ member ∈ members, motive member.2) (fun member => motive member.2)
    null bool number string array object ?_ ?_ ?_ ?_ ?_ value
  · simp
  · intro first rest hFirst hRest item hItem
    rcases List.mem_cons.mp hItem with rfl | hItem
    · exact hFirst
    · exact hRest item hItem
  · simp
  · intro first rest hFirst hRest member hMember
    rcases List.mem_cons.mp hMember with rfl | hMember
    · exact hFirst
    · exact hRest member hMember
  · intro name value hValue
    exact hValue

/-! ## Steps -/

/-- Values that are read without opening an array or object around others. -/
inductive Atom : Json → Prop
  | null : Atom .null
  | bool (value : Bool) : Atom (.bool value)
  | string (value : String) : Atom (.string value)
  | number {negative : Bool} {text rest : List Char} {n : Number}
    (h : readNumber negative text = .ok (n, rest)) : Atom (.number n)
  | array : Atom (.array [])
  | object : Atom (.object [])

/-- An array or object before its first value. -/
inductive Frame.IsNew : Frame → Prop
  | array : IsNew (.array [])
  | object (name : String) : IsNew (.object [] name)

/-- The array or object that a value closes. -/
def Frame.close (value : Json) : Frame → Json
  | .array items => .array (items ++ [value])
  | .object members name => .object (Entries.insert name value members)

/-- The array or object after a value, with the name of the value that follows. -/
def Frame.next (value : Json) (name : String) : Frame → Frame
  | .array items => .array (items ++ [value])
  | .object members last => .object (Entries.insert last value members) name

variable {stack : List Frame} {text : List Char} {value : Json}

theorem lt_of_skipBlanks {c : Char} {rest : List Char} (h : skipBlanks text = c :: rest) :
    rest.length < text.length := by
  have hBlanks := length_skipBlanks text
  rw [h, List.length_cons] at hBlanks
  exact hBlanks

/-- Reading a value finishes one, or opens an array or object. -/
theorem readValue_cases (h : readValue stack text = .ok value) :
    (∃ part more, Atom part ∧ more.length < text.length ∧ finish stack part more = .ok value) ∨
      ∃ frame more, frame.IsNew ∧ more.length < text.length ∧ stack.length < maxDepth ∧
        readValue (frame :: stack) more = .ok value := by
  rw [readValue] at h
  split at h
  · cases h
  next rest hText =>
    have hRest := lt_of_skipBlanks hText
    split at h
    · cases h
    next chars more hString =>
      have hMore := length_readString hString
      exact .inl ⟨_, more, .string _, by omega, h⟩
  next rest hText =>
    have hRest := lt_of_skipBlanks hText
    split at h
    · cases h
    next hRoom =>
      split at h
      · cases h
      next more hClose =>
        have hMore := lt_of_skipBlanks hClose
        exact .inl ⟨_, more, .array, by omega, h⟩
      next =>
        have hMore := length_skipBlanks rest
        exact .inr ⟨_, _, .array, by omega, Nat.lt_of_not_le hRoom, h⟩
  next rest hText =>
    have hRest := lt_of_skipBlanks hText
    split at h
    · cases h
    next hRoom =>
      split at h
      · cases h
      next more hClose =>
        have hMore := lt_of_skipBlanks hClose
        exact .inl ⟨_, more, .object, by omega, h⟩
      next more hQuote =>
        have hMore := lt_of_skipBlanks hQuote
        split at h
        · cases h
        next name tail hName =>
          have hTail := length_readName hName
          exact .inr ⟨_, tail, .object name, by omega, Nat.lt_of_not_le hRoom, h⟩
      · cases h
  next rest hText =>
    have hRest := lt_of_skipBlanks hText
    split at h
    · cases h
    next more hWord =>
      have hMore := length_readWord hWord
      exact .inl ⟨_, more, .null, by omega, h⟩
  next rest hText =>
    have hRest := lt_of_skipBlanks hText
    split at h
    · cases h
    next more hWord =>
      have hMore := length_readWord hWord
      exact .inl ⟨_, more, .bool true, by omega, h⟩
  next rest hText =>
    have hRest := lt_of_skipBlanks hText
    split at h
    · cases h
    next more hWord =>
      have hMore := length_readWord hWord
      exact .inl ⟨_, more, .bool false, by omega, h⟩
  next rest hText =>
    have hRest := lt_of_skipBlanks hText
    split at h
    · cases h
    next n more hNumber =>
      have hMore := length_readNumber hNumber
      exact .inl ⟨_, more, .number hNumber, by omega, h⟩
  next c rest _ _ _ _ _ _ _ hText =>
    have hBlanks := length_skipBlanks text
    rw [hText] at hBlanks
    split at h
    · split at h
      · cases h
      next n more hNumber =>
        have hMore := length_readNumber hNumber
        exact .inl ⟨_, more, .number hNumber, by omega, h⟩
    · cases h

/-- Behind a value the document ends, or the array or object around the value is closed, or
another value follows. -/
theorem finish_cases {part : Json} (h : finish stack part text = .ok value) :
    stack = [] ∧ part = value ∨
      ∃ frame outer more, stack = frame :: outer ∧ more.length < text.length ∧
        (finish outer (frame.close part) more = .ok value ∨
          ∃ name, readValue (frame.next part name :: outer) more = .ok value) := by
  rw [finish.eq_def] at h
  split at h
  · split at h
    · cases h
      exact .inl ⟨rfl, rfl⟩
    · cases h
  next items outer =>
    split at h
    · cases h
    next rest hClose =>
      exact .inr ⟨_, outer, rest, rfl, lt_of_skipBlanks hClose, .inl h⟩
    next rest hComma =>
      have hRest := lt_of_skipBlanks hComma
      split at h
      · cases h
      · cases h
      next =>
        have hMore := length_skipBlanks rest
        exact .inr ⟨_, outer, _, rfl, by omega, .inr ⟨"", h⟩⟩
    · cases h
  next members name outer =>
    split at h
    · cases h
    next rest hClose =>
      exact .inr ⟨_, outer, rest, rfl, lt_of_skipBlanks hClose, .inl h⟩
    next rest hComma =>
      have hRest := lt_of_skipBlanks hComma
      split at h
      · cases h
      · cases h
      next more hQuote =>
        have hMore := lt_of_skipBlanks hQuote
        split at h
        · cases h
        next next tail hName =>
          have hTail := length_readName hName
          exact .inr ⟨_, outer, tail, rfl, by omega, .inr ⟨next, h⟩⟩
      · cases h
    · cases h

/-! ## What documents consist of -/

/-- The members of objects are in name order, integers have room in 64 bits, and no array has
more than `limit` items. -/
inductive Sound (limit : Nat) : Json → Prop
  | null : Sound limit .null
  | bool (value : Bool) : Sound limit (.bool value)
  | string (value : String) : Sound limit (.string value)
  | number {n : Number} (h : n.InRange) : Sound limit (.number n)
  | array {items : List Json} (hLength : items.length ≤ limit)
    (h : ∀ item ∈ items, Sound limit item) : Sound limit (.array items)
  | object {members : List (String × Json)} (hSorted : Entries.Sorted members)
    (h : ∀ member ∈ members, Sound limit member.2) : Sound limit (.object members)

variable {limit : Nat}

theorem Sound.items {items : List Json} (h : Sound limit (.array items)) :
    items.length ≤ limit ∧ ∀ item ∈ items, item.Sound limit := by
  cases h with
  | array hLength hItems => exact ⟨hLength, hItems⟩

theorem Sound.members {members : List (String × Json)} (h : Sound limit (.object members)) :
    Entries.Sorted members ∧ ∀ member ∈ members, member.2.Sound limit := by
  cases h with
  | object hSorted hMembers => exact ⟨hSorted, hMembers⟩

theorem Sound.mono {bound : Nat} (h : value.Sound limit) (hLe : limit ≤ bound) :
    value.Sound bound := by
  induction h with
  | null => exact .null
  | bool => exact .bool _
  | string => exact .string _
  | number hRange => exact .number hRange
  | array hLength _ ih => exact .array (Nat.le_trans hLength hLe) ih
  | object hSorted _ ih => exact .object hSorted ih

theorem Sound.insert {members : List (String × Json)} (h : Sound limit (.object members))
    (name : String) (hValue : value.Sound limit) :
    Sound limit (.object (Entries.insert name value members)) := by
  obtain ⟨hSorted, hMembers⟩ := h.members
  refine .object (Entries.sorted_insert hSorted) ?_
  intro member hMember
  rcases Entries.mem_insert hMember with rfl | hMember
  · exact hValue
  · exact hMembers member hMember

theorem Atom.sound {part : Json} (h : Atom part) : part.Sound limit := by
  cases h with
  | null => exact .null
  | bool => exact .bool _
  | string => exact .string _
  | number hNumber => exact .number (readNumber_ok hNumber).1
  | array => exact .array (Nat.zero_le _) (by simp)
  | object => exact .object List.Pairwise.nil (by simp)

/-- An open array has room for as many items as there are characters left. -/
def Frame.Sound (limit left : Nat) : Frame → Prop
  | .array items => items.length + left ≤ limit ∧ ∀ item ∈ items, item.Sound limit
  | .object members _ => Json.Sound limit (.object members)

namespace Frame

variable {frame : Frame} {left : Nat} {part : Json}

theorem Sound.mono {fewer : Nat} (h : frame.Sound limit left) (hLe : fewer ≤ left) :
    frame.Sound limit fewer := by
  cases frame with
  | array items => exact ⟨by have := h.1; omega, h.2⟩
  | object members name => exact h

theorem sound_of_isNew (h : frame.IsNew) (hLeft : left ≤ limit) : frame.Sound limit left := by
  cases h with
  | array => exact ⟨by simpa using hLeft, by simp⟩
  | object name => exact Atom.object.sound

theorem Sound.close (h : frame.Sound limit (left + 1)) (hPart : part.Sound limit) :
    (frame.close part).Sound limit := by
  cases frame with
  | array items =>
    have hLength := h.1
    refine .array (by simp only [List.length_append, List.length_singleton]; omega) ?_
    intro item hItem
    rcases List.mem_append.mp hItem with hItem | hItem
    · exact h.2 item hItem
    · exact List.mem_singleton.mp hItem ▸ hPart
  | object members name => exact Json.Sound.insert h name hPart

theorem Sound.next (h : frame.Sound limit (left + 1)) (hPart : part.Sound limit)
    (name : String) : (frame.next part name).Sound limit left := by
  have hClosed := h.close hPart
  cases frame with
  | array items =>
    have hLength := h.1
    refine ⟨?_, hClosed.items.2⟩
    simp only [List.length_append, List.length_singleton]
    omega
  | object members last => exact hClosed

end Frame

/-- The induction is on the length of the text. Each item of an open array has taken a character
of the text, so that it has at most `limit` items when it is closed. -/
theorem sound_of_reading (text : List Char) (hLimit : text.length ≤ limit) :
    (∀ stack, readValue stack text = .ok value →
      (∀ frame ∈ stack, frame.Sound limit text.length) → value.Sound limit) ∧
    ∀ stack part, finish stack part text = .ok value → part.Sound limit →
      (∀ frame ∈ stack, frame.Sound limit (text.length + 1)) → value.Sound limit := by
  induction hLength : text.length using Nat.strongRecOn generalizing text with
  | ind length ih =>
    subst hLength
    constructor
    · intro stack hRead hStack
      rcases readValue_cases hRead with
        ⟨part, more, hPart, hShorter, hFinish⟩ | ⟨frame, more, hNew, hShorter, -, hInner⟩
      · refine (ih _ hShorter more (by omega) rfl).2 stack part hFinish hPart.sound ?_
        exact fun frame hFrame => (hStack frame hFrame).mono hShorter
      · refine (ih _ hShorter more (by omega) rfl).1 (frame :: stack) hInner ?_
        intro other hOther
        rcases List.mem_cons.mp hOther with rfl | hOther
        · exact Frame.sound_of_isNew hNew (by omega)
        · exact (hStack other hOther).mono (Nat.le_of_lt hShorter)
    · intro stack part hFinish hPart hStack
      rcases finish_cases hFinish with
        ⟨-, rfl⟩ | ⟨frame, outer, more, rfl, hShorter, hClose | ⟨name, hNext⟩⟩
      · exact hPart
      · have hOuter : ∀ other ∈ outer, other.Sound limit (more.length + 1) := fun other hOther =>
          (hStack other (List.mem_cons_of_mem _ hOther)).mono (by omega)
        have hFrame := hStack frame List.mem_cons_self
        exact (ih _ hShorter more (by omega) rfl).2 outer _ hClose (hFrame.close hPart) hOuter
      · refine (ih _ hShorter more (by omega) rfl).1 (frame.next part name :: outer) hNext ?_
        intro other hOther
        rcases List.mem_cons.mp hOther with rfl | hOther
        · exact ((hStack frame List.mem_cons_self).next hPart name).mono (Nat.le_of_lt hShorter)
        · exact (hStack other (List.mem_cons_of_mem _ hOther)).mono (by omega)

/-- The documents that are read. -/
theorem sound_of_read {text : String} {document : Json} (h : read text = .ok document) :
    document.Sound text.length := by
  have hRead := Except.mapError_eq_ok_iff.mp h
  exact (sound_of_reading text.toList (Nat.le_of_eq String.length_toList)).1 [] hRead (by simp)

theorem sound_empty : Json.empty.Sound limit := Atom.object.sound

/-! ## Setting a string -/

theorem position?_eq_some_iff {name : String} {length position : Nat} :
    position? name length = some position ↔
      Decimal.readIndex? name = some position ∧ position ≤ length := by
  rw [position?, Option.filter_eq_some_iff, decide_eq_true_iff]

theorem mem_setItem {items : List Json} {position : Nat} {new item : Json}
    (h : item ∈ setItem items position new) : item = new ∨ item ∈ items := by
  rw [setItem] at h
  split at h
  · exact (List.mem_or_eq_of_mem_set h).symm
  · rcases List.mem_append.mp h with h | h
    · exact .inr h
    · exact .inl (List.mem_singleton.mp h)

theorem getElem?_setItem {items : List Json} {position : Nat} (h : position ≤ items.length)
    (new : Json) : (setItem items position new)[position]? = some new := by
  rw [setItem]
  split
  next hLt => rw [List.getElem?_set_self hLt]
  next hGe =>
    obtain rfl : position = items.length := by omega
    rw [List.getElem?_concat_length]

theorem getElem?_setItem_of_ne {items : List Json} {position index : Nat} (h : index ≠ position)
    (hPosition : position ≤ items.length) (new : Json) :
    (setItem items position new)[index]? = items[index]? := by
  rw [setItem]
  split
  next hLt => rw [List.getElem?_set_ne h.symm]
  next hGe =>
    rcases Nat.lt_or_ge index items.length with hIndex | hIndex
    · rw [List.getElem?_append_left hIndex]
    · rw [List.getElem?_eq_none hIndex, List.getElem?_eq_none]
      rw [List.length_append, List.length_singleton]
      omega

theorem length_setItem {items : List Json} {position : Nat} (h : position ≤ items.length)
    (new : Json) :
    (setItem items position new).length = items.length ∨
      position = items.length ∧ (setItem items position new).length = items.length + 1 := by
  rw [setItem]
  split
  · exact .inl List.length_set
  · exact .inr ⟨by omega, List.length_append⟩

/-- Positions have room in 64 bits, so that no array grows past them. -/
theorem length_setItem_le {items : List Json} {name : String} {position : Nat}
    (h : position? name items.length = some position) (hLimit : 2 ^ (64 : Nat) ≤ limit)
    (hLength : items.length ≤ limit) (new : Json) :
    (setItem items position new).length ≤ limit := by
  obtain ⟨hRead, hLe⟩ := position?_eq_some_iff.mp h
  have hRoom := Decimal.lt_of_readIndex? hRead
  rw [setItem]
  split
  · rw [List.length_set]
    exact hLength
  · rw [List.length_append, List.length_singleton]
    omega

/-- What a path leads to next is sound, or it is missing and counts as null. -/
theorem Sound.getD {found : Option Json} (h : ∀ part, found = some part → part.Sound limit) :
    (found.getD .null).Sound limit := by
  cases found with
  | none => exact .null
  | some part => exact h part rfl

/-- Setting a string keeps documents sound. -/
theorem Sound.overwrite {text : String} {path : List String} {changed : Json}
    (hLimit : 2 ^ (64 : Nat) ≤ limit) (hSound : value.Sound limit)
    (h : value.overwrite text path = .ok changed) : changed.Sound limit := by
  fun_induction Json.overwrite text path value generalizing changed with
  | case1 | case2 | case5 | case7 | case8 | case10 | case11 | case12 | case13 => cases h
  | case3 =>
    cases h
    exact .string _
  | case4 name rest child hChild ih =>
    cases h
    exact Sound.insert Atom.object.sound name (ih .null hChild)
  | case6 name rest members child hChild ih =>
    cases h
    obtain ⟨-, hMembers⟩ := hSound.members
    refine hSound.insert name (ih (Sound.getD fun part hPart => ?_) hChild)
    exact hMembers (name, part) (Entries.mem_of_lookup_eq_some hPart)
  | case9 name rest items position hPosition child hChild ih =>
    cases h
    obtain ⟨hLength, hItems⟩ := hSound.items
    have hNew := ih (Sound.getD fun part hPart => hItems part (List.mem_of_getElem? hPart)) hChild
    refine .array (length_setItem_le hPosition hLimit hLength child) ?_
    intro item hItem
    rcases mem_setItem hItem with rfl | hItem
    · exact hNew
    · exact hItems item hItem

end ConfigStore.Json
