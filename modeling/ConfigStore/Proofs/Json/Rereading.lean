import ConfigStore.Proofs.Entries
import ConfigStore.Proofs.Json.Numerals
import ConfigStore.Proofs.Json.Reading

/-!
# Reading what was written

* `Json.reread?` is the document that the text of a document is read as, number by number, with
  so much room for nested arrays and objects.
* `Json.read_pretty`: reading what was written gives just that.
* `Json.reread?_eq_self_iff`: it is the same document if and only if there is room for its depth
  and every one of its numbers is read back.

The induction is on the document. A value is read inside any open arrays and objects and with any
text behind it, so that the same statement serves for its items and members.
-/

namespace ConfigStore.Json

mutual

/-- The document that the text of a document is read as. Nothing stands for a fault. -/
def reread? : (room : Nat) → Json → Option Json
  | _, null => some null
  | _, bool value => some (bool value)
  | _, number n => n.reread?.map number
  | _, string value => some (string value)
  | 0, array _ => none
  | room + 1, array items => (rereadItems? room items).map array
  | 0, object _ => none
  | room + 1, object members => (rereadMembers? room members).map object

def rereadItems? (room : Nat) : List Json → Option (List Json)
  | [] => some []
  | item :: rest =>
    (reread? room item).bind fun item => (rereadItems? room rest).map (item :: ·)

def rereadMembers? (room : Nat) : List (String × Json) → Option (List (String × Json))
  | [] => some []
  | (name, value) :: rest =>
    (reread? room value).bind fun value => (rereadMembers? room rest).map ((name, value) :: ·)

end

/-! ## The written text -/

variable {stack : List Frame} {rest : List Char} {limit : Nat}

theorem endsNumber_cons {c : Char} (h : Decimal.digit? c = none)
    (hMarks : c ∉ ['.', 'e', 'E', '+', '-']) (rest : List Char) : EndsNumber (c :: rest) := by
  rintro _ _ ⟨⟩
  simp only [List.mem_cons, List.not_mem_nil, not_or, or_false] at hMarks
  obtain ⟨hPoint, hMark, hMark', hPlus, hMinus⟩ := hMarks
  exact ⟨h, hPoint, hMark, hMark', hPlus, hMinus⟩

theorem endsNumber_newline (level : Nat) (text : List Char) :
    EndsNumber (newline level ++ text) :=
  endsNumber_cons (by decide) (by decide) _

theorem endsNumber_comma (text : List Char) : EndsNumber (',' :: text) :=
  endsNumber_cons (by decide) (by decide) _

/-- A written value does not begin with a blank or a closing bracket. -/
theorem prettyChars_eq_cons (level : Nat) (value : Json) :
    ∃ c rest, prettyChars level value = c :: rest ∧ isBlank c = false ∧ c ≠ ']' := by
  cases value with
  | null => exact ⟨'n', _, rfl, by decide, by decide⟩
  | bool value =>
    cases value with
    | true => exact ⟨'t', _, rfl, by decide, by decide⟩
    | false => exact ⟨'f', _, rfl, by decide, by decide⟩
  | number n =>
    obtain ⟨⟨c, rest, hText, -⟩, hMarks⟩ := n.unmarked_text
    have hMark := hMarks c (by rw [hText]; exact List.mem_cons_self)
    simp only [isMark, Bool.or_eq_false_iff, decide_eq_false_iff_not] at hMark
    exact ⟨c, rest, by rw [prettyChars, hText], hMark.1.1.1.1.1.1, hMark.1.1.1.1.2⟩
  | string text =>
    exact ⟨'"', _, by rw [prettyChars, quote, List.cons_append], by decide, by decide⟩
  | array items =>
    cases items with
    | nil => exact ⟨'[', _, by rw [prettyChars], by decide, by decide⟩
    | cons item items =>
      exact ⟨'[', _, by rw [prettyChars, List.cons_append, List.cons_append], by decide, by decide⟩
  | object members =>
    cases members with
    | nil => exact ⟨'\x7b', _, by rw [prettyChars], by decide, by decide⟩
    | cons member members =>
      exact ⟨'\x7b', _, by rw [prettyChars, List.cons_append, List.cons_append], by decide,
        by decide⟩

/-- What is written behind an item. -/
def afterItem (level : Nat) : List Json → List Char
  | [] => []
  | item :: rest => ',' :: prettyItems level (item :: rest)

theorem prettyItems_cons (level : Nat) (item : Json) (rest : List Json) :
    prettyItems level (item :: rest) =
      newline level ++ (prettyChars level item ++ afterItem level rest) := by
  cases rest with
  | nil => rw [prettyItems, afterItem, List.append_nil]
  | cons next rest =>
    rw [prettyItems, afterItem, List.append_assoc]
    simp

/-- What is written behind the colon of a member. -/
def afterName (level : Nat) (value : Json) (rest : List (String × Json)) : List Char :=
  ' ' :: (prettyChars level value ++
    match rest with
    | [] => []
    | member :: rest => ',' :: prettyMembers level (member :: rest))

theorem prettyMembers_cons (level : Nat) (name : String) (value : Json)
    (rest : List (String × Json)) :
    prettyMembers level ((name, value) :: rest) =
      newline level ++ (quote name ++ ':' :: afterName level value rest) := by
  cases rest with
  | nil => simp [prettyMembers, afterName]
  | cons next rest => simp [prettyMembers, afterName]

/-! ## Reading it -/

/-- Inside any open arrays and objects and with any text behind it, the text of the value is read
as the value that is reread. -/
def Rereads (value : Json) : Prop :=
  ∀ stack level rest, EndsNumber rest →
    (readValue stack (prettyChars level value ++ rest)).toOption =
      (value.reread? (maxDepth - stack.length)).bind fun found =>
        (finish stack found rest).toOption

theorem toOption_readValue_items {items : List Json} {item : Json}
    (h : ∀ other ∈ item :: items, other.Rereads) (stack : List Frame) (done : List Json)
    (level outer : Nat) (rest : List Char) :
    (readValue (.array done :: stack)
        (prettyItems level (item :: items) ++ (newline outer ++ ']' :: rest))).toOption =
      (rereadItems? (maxDepth - (stack.length + 1)) (item :: items)).bind fun found =>
        (finish stack (.array (done ++ found)) rest).toOption := by
  induction items generalizing item done with
  | nil =>
    have hItem := h item List.mem_cons_self (.array done :: stack) level
      (newline outer ++ ']' :: rest) (endsNumber_newline _ _)
    rw [prettyItems_cons, afterItem, List.append_nil, List.append_assoc, readValue_newline, hItem,
      List.length_cons, rereadItems?, rereadItems?]
    cases item.reread? (maxDepth - (stack.length + 1)) with
    | none => rfl
    | some found =>
      simp only [Option.bind_some, Option.map_some]
      rw [finish_bracket]
  | cons next items ih =>
    have hItem := h item List.mem_cons_self (.array done :: stack) level
      (',' :: (prettyItems level (next :: items) ++ (newline outer ++ ']' :: rest)))
      (endsNumber_comma _)
    obtain ⟨c, text, hHead, hBlank, hClose⟩ := prettyChars_eq_cons level next
    rw [prettyItems_cons, afterItem, List.append_assoc, readValue_newline, List.append_assoc,
      List.cons_append, hItem, List.length_cons, rereadItems?]
    cases item.reread? (maxDepth - (stack.length + 1)) with
    | none => rfl
    | some found =>
      have hRest := ih (fun other hMem => h other (List.mem_cons_of_mem _ hMem)) (done ++ [found])
      rw [prettyItems_cons, hHead, List.append_assoc, readValue_newline] at hRest
      simp only [Option.bind_some]
      rw [prettyItems_cons, hHead, List.append_assoc]
      simp only [List.cons_append] at hRest ⊢
      rw [finish_item _ _ hBlank hClose, hRest, Option.bind_map]
      congr 1
      funext found
      simp

theorem toOption_readValue_members {members : List (String × Json)} {name : String} {value : Json}
    (h : ∀ member ∈ (name, value) :: members, member.2.Rereads)
    (hSorted : Entries.Sorted ((name, value) :: members)) (stack : List Frame)
    {done : List (String × Json)} (hDone : ∀ entry ∈ done, entry.1 < name) (level outer : Nat)
    (rest : List Char) :
    (readValue (.object done name :: stack)
        (afterName level value members ++ (newline outer ++ '\x7d' :: rest))).toOption =
      (rereadMembers? (maxDepth - (stack.length + 1)) ((name, value) :: members)).bind fun found =>
        (finish stack (.object (done ++ found)) rest).toOption := by
  induction members generalizing name value done with
  | nil =>
    have hValue := h (name, value) List.mem_cons_self (.object done name :: stack) level
      (newline outer ++ '\x7d' :: rest) (endsNumber_newline _ _)
    rw [afterName, List.append_nil, List.cons_append, readValue_blank, hValue, List.length_cons,
      rereadMembers?, rereadMembers?]
    cases value.reread? (maxDepth - (stack.length + 1)) with
    | none => rfl
    | some found =>
      simp only [Option.bind_some, Option.map_some]
      rw [finish_brace, Entries.insert_eq_concat hDone]
  | cons next members ih =>
    obtain ⟨nextName, nextValue⟩ := next
    have hValue := h (name, value) List.mem_cons_self (.object done name :: stack) level
      (',' :: (prettyMembers level ((nextName, nextValue) :: members) ++
        (newline outer ++ '\x7d' :: rest))) (endsNumber_comma _)
    obtain ⟨hFirst, hRest⟩ := List.pairwise_cons.mp hSorted
    have hLt : name < nextName := hFirst _ List.mem_cons_self
    rw [afterName, List.cons_append, readValue_blank, List.append_assoc, List.cons_append, hValue,
      List.length_cons, rereadMembers?]
    cases value.reread? (maxDepth - (stack.length + 1)) with
    | none => rfl
    | some found =>
      have hDone' : ∀ entry ∈ done ++ [(name, found)], entry.1 < nextName := by
        intro entry hMem
        rcases List.mem_append.mp hMem with hMem | hMem
        · exact String.lt_trans (hDone entry hMem) hLt
        · rw [List.mem_singleton.mp hMem]
          exact hLt
      have hMore := ih (fun member hMem => h member (List.mem_cons_of_mem _ hMem)) hRest hDone'
      simp only [Option.bind_some]
      rw [prettyMembers_cons, List.append_assoc, List.append_assoc, List.cons_append,
        finish_member, Entries.insert_eq_concat hDone, hMore, Option.bind_map]
      congr 1
      funext found
      simp

theorem exists_room {depth : Nat} (h : depth < maxDepth) :
    ∃ room, maxDepth - depth = room + 1 ∧ maxDepth - (depth + 1) = room :=
  ⟨maxDepth - (depth + 1), by omega, rfl⟩

theorem rereads_array {items : List Json} (h : ∀ item ∈ items, item.Rereads) :
    (array items).Rereads := by
  intro stack level rest hRest
  rcases Nat.lt_or_ge stack.length maxDepth with hRoom | hFull
  · obtain ⟨room, hOuter, hInner⟩ := exists_room hRoom
    cases items with
    | nil =>
      rw [prettyChars, hOuter, reread?, rereadItems?]
      exact congrArg Except.toOption (readValue_emptyArray hRoom)
    | cons item items =>
      have hItems := toOption_readValue_items h stack [] (level + 1) level rest
      obtain ⟨c, text, hHead, hBlank, hClose⟩ := prettyChars_eq_cons (level + 1) item
      rw [prettyItems_cons, hHead, List.append_assoc, readValue_newline, hInner] at hItems
      rw [prettyChars, prettyItems_cons, hHead, hOuter, reread?, Option.bind_map]
      simp only [List.cons_append, List.append_assoc, List.nil_append] at hItems ⊢
      rw [readValue_array hRoom _ hBlank hClose, hItems]
      rfl
  · have hNone : (readValue stack (prettyChars level (array items) ++ rest)).toOption = none := by
      cases items with
      | nil => exact readValue_eq_none (.inl rfl) hFull _
      | cons item items =>
        rw [prettyChars]
        exact readValue_eq_none (.inl rfl) hFull _
    rw [hNone, Nat.sub_eq_zero_of_le hFull, reread?, Option.bind_none]

theorem rereads_object {members : List (String × Json)} (hSorted : Entries.Sorted members)
    (h : ∀ member ∈ members, member.2.Rereads) : (object members).Rereads := by
  intro stack level rest hRest
  rcases Nat.lt_or_ge stack.length maxDepth with hRoom | hFull
  · obtain ⟨room, hOuter, hInner⟩ := exists_room hRoom
    cases members with
    | nil =>
      rw [prettyChars, hOuter, reread?, rereadMembers?]
      exact congrArg Except.toOption (readValue_emptyObject hRoom)
    | cons member members =>
      obtain ⟨name, value⟩ := member
      have hDone : ∀ entry ∈ ([] : List (String × Json)), entry.1 < name := by simp
      have hMembers := toOption_readValue_members h hSorted stack hDone (level + 1) level rest
      rw [hInner] at hMembers
      rw [prettyChars, prettyMembers_cons, hOuter, reread?, Option.bind_map]
      simp only [List.cons_append, List.append_assoc, List.nil_append] at hMembers ⊢
      rw [readValue_object hRoom, hMembers]
      rfl
  · have hNone :
        (readValue stack (prettyChars level (object members) ++ rest)).toOption = none := by
      cases members with
      | nil => exact readValue_eq_none (.inr rfl) hFull _
      | cons member members =>
        rw [prettyChars]
        exact readValue_eq_none (.inr rfl) hFull _
    rw [hNone, Nat.sub_eq_zero_of_le hFull, reread?, Option.bind_none]

/-- Reading a value that was written gives the value that is reread. -/
theorem Sound.rereads {value : Json} (hSound : value.Sound limit) : value.Rereads := by
  induction value using inductionOn with
  | null =>
    intro stack level rest hRest
    rw [prettyChars, readValue_null, reread?, Option.bind_some]
  | bool value =>
    intro stack level rest hRest
    rw [prettyChars, readValue_bool, reread?, Option.bind_some]
  | number n =>
    intro stack level rest hRest
    rw [prettyChars, toOption_readValue_number hRest, reread?, Option.bind_map]
    rfl
  | string text =>
    intro stack level rest hRest
    rw [prettyChars, readValue_quote, reread?, Option.bind_some]
  | array items ih =>
    obtain ⟨-, hItems⟩ := hSound.items
    exact rereads_array fun item hMem => ih item hMem (hItems item hMem)
  | object members ih =>
    obtain ⟨hSorted, hMembers⟩ := hSound.members
    exact rereads_object hSorted fun member hMem => ih member hMem (hMembers member hMem)

/-- Reading a document that was written gives the document that is reread, or a fault if there is
none. -/
theorem read_pretty {document found : Json} (hSound : document.Sound limit) :
    read document.pretty = .ok found ↔ document.reread? maxDepth = some found := by
  have hRead := hSound.rereads [] 0 [] endsNumber_nil
  rw [List.append_nil, List.length_nil, Nat.sub_zero] at hRead
  have hFinish : (document.reread? maxDepth).bind (fun found =>
      (finish [] found []).toOption) = document.reread? maxDepth := by
    cases document.reread? maxDepth with
    | none => rfl
    | some found =>
      rw [Option.bind_some, finish_nil]
      rfl
  rw [hFinish] at hRead
  rw [read, pretty, String.toList_ofList, Except.mapError_eq_ok_iff,
    ← Except.toOption_eq_some_iff, hRead]

/-! ## When it is the same document -/

mutual

/-- How many arrays and objects are nested in one another. -/
def depth : Json → Nat
  | null | bool _ | number _ | string _ => 0
  | array items => depthOfItems items + 1
  | object members => depthOfMembers members + 1

def depthOfItems : List Json → Nat
  | [] => 0
  | item :: rest => max (depth item) (depthOfItems rest)

def depthOfMembers : List (String × Json) → Nat
  | [] => 0
  | (_, value) :: rest => max (depth value) (depthOfMembers rest)

end

mutual

/-- The numbers of a document. -/
def numbers : Json → List Number
  | null | bool _ | string _ => []
  | number n => [n]
  | array items => numbersOfItems items
  | object members => numbersOfMembers members

def numbersOfItems : List Json → List Number
  | [] => []
  | item :: rest => numbers item ++ numbersOfItems rest

def numbersOfMembers : List (String × Json) → List Number
  | [] => []
  | (_, value) :: rest => numbers value ++ numbersOfMembers rest

end

theorem rereadItems?_eq_self_iff {items : List Json} {room : Nat}
    (h : ∀ item ∈ items, item.reread? room = some item ↔
      item.depth ≤ room ∧ ∀ n ∈ item.numbers, n.reread? = some n) :
    rereadItems? room items = some items ↔
      depthOfItems items ≤ room ∧ ∀ n ∈ numbersOfItems items, n.reread? = some n := by
  induction items with
  | nil => simp [rereadItems?, depthOfItems, numbersOfItems]
  | cons item rest ih =>
    have hItem := h item List.mem_cons_self
    have hRest := ih fun other hMem => h other (List.mem_cons_of_mem _ hMem)
    have hCons : rereadItems? room (item :: rest) = some (item :: rest) ↔
        item.reread? room = some item ∧ rereadItems? room rest = some rest := by
      simp [rereadItems?, Option.bind_eq_some_iff]
    rw [hCons, hItem, hRest, depthOfItems, numbersOfItems, Nat.max_le, List.forall_mem_append,
      and_and_and_comm]

theorem rereadMembers?_eq_self_iff {members : List (String × Json)} {room : Nat}
    (h : ∀ member ∈ members, member.2.reread? room = some member.2 ↔
      member.2.depth ≤ room ∧ ∀ n ∈ member.2.numbers, n.reread? = some n) :
    rereadMembers? room members = some members ↔
      depthOfMembers members ≤ room ∧ ∀ n ∈ numbersOfMembers members, n.reread? = some n := by
  induction members with
  | nil => simp [rereadMembers?, depthOfMembers, numbersOfMembers]
  | cons member rest ih =>
    obtain ⟨name, value⟩ := member
    have hValue := h (name, value) List.mem_cons_self
    have hRest := ih fun other hMem => h other (List.mem_cons_of_mem _ hMem)
    have hCons : rereadMembers? room ((name, value) :: rest) = some ((name, value) :: rest) ↔
        value.reread? room = some value ∧ rereadMembers? room rest = some rest := by
      simp [rereadMembers?, Option.bind_eq_some_iff]
    rw [hCons, hValue, hRest, depthOfMembers, numbersOfMembers, Nat.max_le,
      List.forall_mem_append, and_and_and_comm]

/-- A document is reread as itself if and only if there is room for its depth and every one of its
numbers is read back. -/
theorem reread?_eq_self_iff {value : Json} {room : Nat} :
    value.reread? room = some value ↔
      value.depth ≤ room ∧ ∀ n ∈ value.numbers, n.reread? = some n := by
  induction value using inductionOn generalizing room with
  | null | bool | string => simp [reread?, depth, numbers]
  | number n => simp [reread?, depth, numbers]
  | array items ih =>
    rw [depth, numbers]
    cases room with
    | zero => simp [reread?]
    | succ room =>
      rw [reread?, Nat.add_le_add_iff_right,
        ← rereadItems?_eq_self_iff fun item hMem => ih item hMem]
      simp
  | object members ih =>
    rw [depth, numbers]
    cases room with
    | zero => simp [reread?]
    | succ room =>
      rw [reread?, Nat.add_le_add_iff_right,
        ← rereadMembers?_eq_self_iff fun member hMem => ih member hMem]
      simp

theorem numbersOfItems_eq_flatMap (items : List Json) :
    numbersOfItems items = items.flatMap numbers := by
  induction items with
  | nil => rfl
  | cons item rest ih => rw [numbersOfItems, ih, List.flatMap_cons]

theorem numbersOfMembers_eq_flatMap (members : List (String × Json)) :
    numbersOfMembers members = members.flatMap fun member => member.2.numbers := by
  induction members with
  | nil => rfl
  | cons member rest ih => rw [numbersOfMembers, ih, List.flatMap_cons]

theorem Sound.inRange {value : Json} (hSound : value.Sound limit) {n : Number}
    (h : n ∈ value.numbers) : n.InRange := by
  induction value using inductionOn with
  | null | bool | string => cases h
  | number m =>
    rw [numbers, List.mem_singleton] at h
    subst h
    cases hSound with
    | number hRange => exact hRange
  | array items ih =>
    rw [numbers, numbersOfItems_eq_flatMap] at h
    obtain ⟨item, hMem, hNumber⟩ := List.mem_flatMap.mp h
    exact ih item hMem (hSound.items.2 item hMem) hNumber
  | object members ih =>
    rw [numbers, numbersOfMembers_eq_flatMap] at h
    obtain ⟨member, hMem, hNumber⟩ := List.mem_flatMap.mp h
    exact ih member hMem (hSound.members.2 member hMem) hNumber

/-- Of the numbers of a document that was read, only the doubles may not be read back. -/
theorem Sound.reread?_eq_self_iff {value : Json} {room : Nat} (hSound : value.Sound limit) :
    value.reread? room = some value ↔
      value.depth ≤ room ∧ ∀ d, .double d ∈ value.numbers →
        read (Number.double d).text = .ok (.number (.double d)) := by
  rw [Json.reread?_eq_self_iff]
  refine and_congr_right fun _ => ⟨fun h d hMem => ?_, fun h n hMem => ?_⟩
  · exact Number.reread?_eq_some_iff.mp (h _ hMem)
  · cases n with
    | integer value => exact Number.reread?_of_integer (hSound.inRange hMem)
    | double d => exact Number.reread?_eq_some_iff.mpr (h d hMem)

/-! ## Strings -/

theorem rereadItems?_getElem? {items found : List Json} {room index : Nat} {item : Json}
    (h : rereadItems? room items = some found) (hItem : items[index]? = some item) :
    ∃ other, found[index]? = some other ∧ item.reread? room = some other := by
  induction items generalizing found index with
  | nil => cases hItem
  | cons first rest ih =>
    rw [rereadItems?] at h
    obtain ⟨head, hHead, h⟩ := Option.bind_eq_some_iff.mp h
    obtain ⟨tail, hTail, rfl⟩ := Option.map_eq_some_iff.mp h
    cases index with
    | zero =>
      cases hItem
      exact ⟨head, rfl, hHead⟩
    | succ index =>
      obtain ⟨other, hOther, hReread⟩ := ih hTail hItem
      exact ⟨other, hOther, hReread⟩

theorem rereadMembers?_lookup {members found : List (String × Json)} {room : Nat} {name : String}
    {value : Json} (h : rereadMembers? room members = some found)
    (hValue : members.lookup name = some value) :
    ∃ other, found.lookup name = some other ∧ value.reread? room = some other := by
  induction members generalizing found with
  | nil => cases hValue
  | cons first rest ih =>
    obtain ⟨firstName, firstValue⟩ := first
    rw [rereadMembers?] at h
    obtain ⟨head, hHead, h⟩ := Option.bind_eq_some_iff.mp h
    obtain ⟨tail, hTail, rfl⟩ := Option.map_eq_some_iff.mp h
    rw [List.lookup_cons] at hValue ⊢
    cases hName : name == firstName with
    | true =>
      rw [hName] at hValue
      cases hValue
      exact ⟨head, rfl, hHead⟩
    | false =>
      rw [hName] at hValue
      exact ih hTail hValue

/-- Strings stay where they are. -/
theorem get?_of_reread? {value found : Json} {room : Nat} {path : List String} {text : String}
    (h : value.reread? room = some found) (hText : get? path value = some (.string text)) :
    get? path found = some (.string text) := by
  induction path generalizing value found room with
  | nil =>
    cases hText
    cases h
    rfl
  | cons name rest ih =>
    cases value with
    | null | bool | number | string => cases hText
    | array items =>
      obtain ⟨index, hIndex, hText⟩ := Option.bind_eq_some_iff.mp hText
      obtain ⟨item, hItem, hText⟩ := Option.bind_eq_some_iff.mp hText
      cases room with
      | zero => cases h
      | succ room =>
        obtain ⟨others, hOthers, rfl⟩ := Option.map_eq_some_iff.mp h
        obtain ⟨other, hOther, hReread⟩ := rereadItems?_getElem? hOthers hItem
        rw [get?, hIndex, Option.bind_some, hOther, Option.bind_some]
        exact ih hReread hText
    | object members =>
      obtain ⟨member, hMember, hText⟩ := Option.bind_eq_some_iff.mp hText
      cases room with
      | zero => cases h
      | succ room =>
        obtain ⟨others, hOthers, rfl⟩ := Option.map_eq_some_iff.mp h
        obtain ⟨other, hOther, hReread⟩ := rereadMembers?_lookup hOthers hMember
        rw [get?, hOther, Option.bind_some]
        exact ih hReread hText

end ConfigStore.Json
