import ConfigStore.Proofs.Json.Reading

/-!
# Strings are set exactly and locally

What becomes of the rest of a document when a string is set. In an array one position has several
names, so that places are compared by their locations and not by the paths that lead there.

* `Json.Hop`, `Json.at?`: a location is a list of member names and item positions.
* `Json.locate?` is the location that a path names.
* `Json.LeadsTo`: where a path leads if null and what is missing count as objects without members.
* `Json.Sets`: a document with the string at a location set, made of one `Json.Replaces` for every
  hop.
* `Json.set_exact`: when a string can be set, and what is left of the document around it.
-/

namespace ConfigStore.Json

/-! ## Locations -/

/-- A step from an object or array to what it holds. -/
inductive Hop where
  | member (name : String)
  | item (position : Nat)
deriving DecidableEq, Repr

/-- The value at a location. -/
def at? : List Hop → Json → Option Json
  | [], value => some value
  | .member name :: rest, object members => (members.lookup name).bind (at? rest)
  | .item position :: rest, array items => items[position]?.bind (at? rest)
  | _ :: _, _ => none

/-- The location of the value that a path leads to. -/
def locate? : List String → Json → Option (List Hop)
  | [], _ => some []
  | name :: rest, object members =>
    (members.lookup name).bind fun member => (locate? rest member).map (.member name :: ·)
  | name :: rest, array items =>
    (Decimal.readIndex? name).bind fun position =>
      items[position]?.bind fun item => (locate? rest item).map (.item position :: ·)
  | _ :: _, _ => none

variable {value changed child : Json} {hop : Hop} {place other : List Hop} {text : String}

theorem get?_eq_at? (path : List String) (value : Json) :
    get? path value = (locate? path value).bind fun place => at? place value := by
  induction path generalizing value with
  | nil => rfl
  | cons name rest ih =>
    cases value with
    | null | bool | number | string => rfl
    | object members =>
      rw [get?, locate?]
      cases hMember : members.lookup name with
      | none => rfl
      | some member =>
        rw [Option.bind_some, Option.bind_some, ih, Option.bind_map]
        congr 1
        funext place
        rw [Function.comp_apply, at?, hMember, Option.bind_some]
    | array items =>
      rw [get?, locate?]
      cases Decimal.readIndex? name with
      | none => rfl
      | some position =>
        rw [Option.bind_some, Option.bind_some]
        cases hItem : items[position]? with
        | none => rfl
        | some item =>
          rw [Option.bind_some, Option.bind_some, ih, Option.bind_map]
          congr 1
          funext place
          rw [Function.comp_apply, at?, hItem, Option.bind_some]

def isContainer : Json → Bool
  | array _ | object _ => true
  | null | bool _ | number _ | string _ => false

theorem at?_cons_of_not_container (h : value.isContainer = false) (rest : List Hop) :
    at? (hop :: rest) value = none := by
  cases value with
  | array | object => cases h
  | null | bool | number | string => cases hop <;> rfl

theorem at?_cons (hop : Hop) (rest : List Hop) (value : Json) :
    at? (hop :: rest) value = (at? [hop] value).bind (at? rest) := by
  cases hop <;> cases value <;> simp [at?]

theorem at?_append (place rest : List Hop) (value : Json) :
    at? (place ++ rest) value = (at? place value).bind (at? rest) := by
  induction place generalizing value with
  | nil => rfl
  | cons hop place ih =>
    rw [List.cons_append, at?_cons, at?_cons hop place, Option.bind_assoc]
    congr 1
    funext inner
    exact ih inner

/-! ## Where a string can be set -/

/-- Where a name leads from a value or from a missing one. Null and what is missing count as
objects without members, and the position behind the last item as a missing item. -/
inductive Leads (name : String) : Option Json → Option Json → Prop
  | missing : Leads name none none
  | null : Leads name (some .null) none
  | member (members : List (String × Json)) :
    Leads name (some (.object members)) (members.lookup name)
  | item {items : List Json} {position : Nat} (hName : Decimal.readIndex? name = some position)
    (hRoom : position ≤ items.length) : Leads name (some (.array items)) items[position]?

/-- Where a path leads. -/
inductive LeadsTo : List String → Option Json → Option Json → Prop
  | nil (found : Option Json) : LeadsTo [] found found
  | cons {name : String} {rest : List String} {start next found : Option Json}
    (hFirst : Leads name start next) (hRest : LeadsTo rest next found) :
    LeadsTo (name :: rest) start found

/-! ## One hop -/

/-- One value is the other one with a part of it replaced or added. -/
inductive Replaces : Json → Hop → Json → Json → Prop
  | null (name : String) (child : Json) :
    Replaces .null (.member name) child (.object [(name, child)])
  | member (members : List (String × Json)) (name : String) (child : Json) :
    Replaces (.object members) (.member name) child (.object (Entries.insert name child members))
  | item {items : List Json} {position : Nat} (hRoom : position ≤ items.length) (child : Json) :
    Replaces (.array items) (.item position) child (.array (setItem items position child))

namespace Replaces

theorem at?_self (h : Replaces value hop child changed) (rest : List Hop) :
    at? (hop :: rest) changed = at? rest child := by
  cases h with
  | null name => rw [at?, List.lookup_cons, beq_self_eq_true, Option.bind_some]
  | member members name => rw [at?, Entries.lookup_insert_self, Option.bind_some]
  | item hRoom => rw [at?, getElem?_setItem hRoom, Option.bind_some]

theorem at?_of_ne (h : Replaces value hop child changed) {step : Hop} (hNe : step ≠ hop)
    (rest : List Hop) : at? (step :: rest) changed = at? (step :: rest) value := by
  cases h with
  | null name =>
    cases step with
    | item position => rfl
    | member first =>
      have hName : first ≠ name := fun hEq => hNe (congrArg Hop.member hEq)
      rw [at?, List.lookup_cons, beq_eq_false_iff_ne.mpr hName]
      rfl
  | member members name =>
    cases step with
    | item position => rfl
    | member first =>
      have hName : first ≠ name := fun hEq => hNe (congrArg Hop.member hEq)
      rw [at?, at?, Entries.lookup_insert_of_ne hName]
  | @item items position hRoom =>
    cases step with
    | member name => rfl
    | item index =>
      have hIndex : index ≠ position := fun hEq => hNe (congrArg Hop.item hEq)
      rw [at?, at?, getElem?_setItem_of_ne hIndex hRoom]

end Replaces

/-- What setting a string below a value does. -/
theorem overwrite_cons_cases {name : String} {rest : List String}
    (h : overwrite text (name :: rest) value = .ok changed) :
    ∃ hop child, Replaces value hop child changed ∧
      Leads name (some value) (at? [hop] value) ∧
      overwrite text rest ((at? [hop] value).getD null) = .ok child ∧
      locate? (name :: rest) changed = (locate? rest child).map (hop :: ·) := by
  cases value with
  | bool | number | string => cases h
  | null =>
    rw [overwrite] at h
    split at h
    next child hChild =>
      cases h
      refine ⟨.member name, child, .null name child, .null, hChild, ?_⟩
      rw [locate?, List.lookup_cons, beq_self_eq_true, Option.bind_some]
    · cases h
  | object members =>
    rw [overwrite] at h
    split at h
    next child hChild =>
      cases h
      have hAt : at? [.member name] (.object members) = members.lookup name := by
        rw [at?]
        cases members.lookup name <;> rfl
      refine ⟨.member name, child, .member members name child, ?_, ?_, ?_⟩
      · rw [hAt]
        exact .member members
      · rw [hAt]
        exact hChild
      · rw [locate?, Entries.lookup_insert_self, Option.bind_some]
    · cases h
  | array items =>
    rw [overwrite] at h
    split at h
    · cases h
    next position hPosition =>
      obtain ⟨hName, hRoom⟩ := position?_eq_some_iff.mp hPosition
      split at h
      next child hChild =>
        cases h
        have hAt : at? [.item position] (.array items) = items[position]? := by
          rw [at?]
          cases items[position]? <;> rfl
        refine ⟨.item position, child, .item hRoom child, ?_, ?_, ?_⟩
        · rw [hAt]
          exact .item hName hRoom
        · rw [hAt]
          exact hChild
        · rw [locate?, hName, Option.bind_some, getElem?_setItem hRoom, Option.bind_some]
      · cases h

/-! ## When a string can be set -/

theorem Leads.of_null {name : String} {next : Option Json} (h : Leads name (some .null) next) :
    Leads name none next := by
  cases h
  exact .missing

/-- Where a name leads, a string is set if one is set in what it leads to. -/
theorem exists_overwrite_of_leads {name : String} {rest : List String} {start next : Option Json}
    (hLeads : Leads name start next) (h : overwrite text rest (next.getD .null) = .ok child) :
    ∃ changed, overwrite text (name :: rest) (start.getD .null) = .ok changed := by
  cases hLeads with
  | missing =>
    rw [Option.getD_none] at h
    rw [Option.getD_none, overwrite, h]
    exact ⟨_, rfl⟩
  | null =>
    rw [Option.getD_none] at h
    rw [Option.getD_some, overwrite, h]
    exact ⟨_, rfl⟩
  | member members =>
    rw [Option.getD_some, overwrite, h]
    exact ⟨_, rfl⟩
  | item hName hRoom =>
    rw [Option.getD_some, overwrite, position?_eq_some_iff.mpr ⟨hName, hRoom⟩]
    dsimp only
    rw [h]
    exact ⟨_, rfl⟩

theorem exists_overwrite_nil_iff :
    (∃ changed, overwrite text [] value = .ok changed) ↔ value.isContainer = false := by
  cases value <;> simp [overwrite, isContainer]

/-- A string can be set if and only if the path leads somewhere, and not to an array or object. -/
theorem exists_overwrite_iff {path : List String} {start : Option Json} :
    (∃ changed, overwrite text path (start.getD .null) = .ok changed) ↔
      ∃ found, LeadsTo path start found ∧ (found.getD .null).isContainer = false := by
  induction path generalizing start with
  | nil =>
    rw [exists_overwrite_nil_iff]
    constructor
    · intro h
      exact ⟨start, .nil start, h⟩
    · rintro ⟨found, ⟨⟩, h⟩
      exact h
  | cons name rest ih =>
    constructor
    · rintro ⟨changed, hChanged⟩
      obtain ⟨hop, child, -, hLeads, hChild, -⟩ := overwrite_cons_cases hChanged
      obtain ⟨found, hRest, hFound⟩ := ih.mp ⟨child, hChild⟩
      refine ⟨found, .cons ?_ hRest, hFound⟩
      cases start with
      | none => exact hLeads.of_null
      | some value => exact hLeads
    · rintro ⟨found, hPath, hFound⟩
      cases hPath with
      | cons hFirst hRest =>
        obtain ⟨child, hChild⟩ := ih.mpr ⟨found, hRest, hFound⟩
        exact exists_overwrite_of_leads hFirst hChild

/-! ## The document around the string -/

/-- A document is the other one with a string at a location. -/
inductive Sets (text : String) : Json → List Hop → Json → Prop
  | here {value : Json} (h : value.isContainer = false) : Sets text value [] (.string text)
  | through {value changed child : Json} {hop : Hop} {place : List Hop}
    (hHop : Replaces value hop child changed)
    (h : Sets text ((at? [hop] value).getD .null) place child) :
    Sets text value (hop :: place) changed

theorem exists_sets {path : List String} (h : overwrite text path value = .ok changed) :
    ∃ place, locate? path changed = some place ∧ Sets text value place changed := by
  induction path generalizing value changed with
  | nil =>
    have hValue := exists_overwrite_nil_iff.mp ⟨changed, h⟩
    obtain rfl : changed = .string text := by
      cases value <;> cases h <;> rfl
    exact ⟨[], rfl, .here hValue⟩
  | cons name rest ih =>
    obtain ⟨hop, child, hHop, -, hChild, hLocate⟩ := overwrite_cons_cases h
    obtain ⟨place, hPlace, hSets⟩ := ih hChild
    exact ⟨hop :: place, by rw [hLocate, hPlace, Option.map_some], .through hHop hSets⟩

namespace Sets

theorem at?_place (h : Sets text value place changed) :
    at? place changed = some (.string text) := by
  induction h with
  | here => rfl
  | through hHop _ ih => rw [hHop.at?_self, ih]

end Sets

/-- The string that was set is found. -/
theorem get?_overwrite {path : List String} (h : overwrite text path value = .ok changed) :
    get? path changed = some (.string text) := by
  obtain ⟨place, hPlace, hSets⟩ := exists_sets h
  rw [get?_eq_at?, hPlace, Option.bind_some, hSets.at?_place]

namespace Sets

/-- A location that does not lead on to that of the string holds the same as before. -/
theorem at?_of_not_prefix (h : Sets text value place changed) (hOther : ¬ other <+: place) :
    at? other changed = at? other value := by
  induction h generalizing other with
  | here hValue =>
    cases other with
    | nil => exact absurd List.nil_prefix hOther
    | cons step rest => rw [at?_cons_of_not_container hValue, at?_cons_of_not_container rfl]
  | @through value changed child hop place hHop _ ih =>
    cases other with
    | nil => exact absurd List.nil_prefix hOther
    | cons step rest =>
      by_cases hStep : step = hop
      · subst hStep
        rw [List.cons_prefix_cons, and_iff_right rfl] at hOther
        rw [hHop.at?_self, ih hOther, at?_cons step rest value]
        cases at? [step] value with
        | some found => rfl
        | none =>
          cases rest with
          | nil => exact absurd List.nil_prefix hOther
          | cons step rest => exact at?_cons_of_not_container rfl rest
      · exact hHop.at?_of_ne hStep rest

/-- What stands above the string was null, an array or an object, or it was missing. -/
theorem scalarText?_of_above (h : Sets text value place changed) (hOther : other <+: place)
    (hNe : other ≠ place) {found : Json} (hFound : at? other value = some found) :
    found.scalarText? = none := by
  induction h generalizing other with
  | here => exact absurd (List.prefix_nil.mp hOther) hNe
  | @through value changed child hop place hHop _ ih =>
    cases other with
    | nil =>
      cases hFound
      cases hHop <;> rfl
    | cons step rest =>
      obtain ⟨rfl, hRest⟩ := List.cons_prefix_cons.mp hOther
      rw [at?_cons] at hFound
      obtain ⟨inner, hInner, hFound⟩ := Option.bind_eq_some_iff.mp hFound
      rw [hInner, Option.getD_some] at ih
      exact ih hRest (fun hEq => hNe (by rw [hEq])) hFound

/-- An array or object on the way to the string has one part replaced or added. -/
theorem exists_replaces (h : Sets text value place changed) (hOther : other <+: place)
    {found : Json} (hFound : at? other value = some found) (hContainer : found.isContainer = true) :
    ∃ hop child after, other ++ [hop] <+: place ∧ Replaces found hop child after ∧
      at? other changed = some after := by
  induction h generalizing other with
  | here hValue =>
    rw [List.prefix_nil.mp hOther] at hFound
    cases hFound
    rw [hValue] at hContainer
    cases hContainer
  | @through value changed child hop place hHop _ ih =>
    cases other with
    | nil =>
      cases hFound
      exact ⟨hop, child, changed, List.cons_prefix_cons.mpr ⟨rfl, List.nil_prefix⟩, hHop, rfl⟩
    | cons step rest =>
      obtain ⟨rfl, hRest⟩ := List.cons_prefix_cons.mp hOther
      rw [at?_cons] at hFound
      obtain ⟨inner, hInner, hFound⟩ := Option.bind_eq_some_iff.mp hFound
      rw [hInner, Option.getD_some] at ih
      obtain ⟨last, part, after, hPlace, hReplaces, hAfter⟩ := ih hRest hFound
      refine ⟨last, part, after, List.cons_prefix_cons.mpr ⟨rfl, hPlace⟩, hReplaces, ?_⟩
      rw [hHop.at?_self, hAfter]

/-- Every object keeps its members. -/
theorem exists_members (h : Sets text value place changed) {members : List (String × Json)}
    (hFound : at? other value = some (.object members)) :
    ∃ kept, at? other changed = some (.object kept) ∧
      ∀ name, (members.lookup name).isSome = true → (kept.lookup name).isSome = true := by
  by_cases hOther : other <+: place
  · obtain ⟨hop, child, after, -, hReplaces, hAfter⟩ := h.exists_replaces hOther hFound rfl
    cases hReplaces with
    | member _ name =>
      refine ⟨_, hAfter, ?_⟩
      intro first hFirst
      by_cases hName : first = name
      · rw [hName, Entries.lookup_insert_self]
        rfl
      · rw [Entries.lookup_insert_of_ne hName]
        exact hFirst
  · exact ⟨members, (h.at?_of_not_prefix hOther).trans hFound, fun _ hName => hName⟩

/-- Every array keeps its items, and one may be put behind them. The item that leads on to the
string is changed in its place. -/
theorem exists_items (h : Sets text value place changed) {items : List Json}
    (hFound : at? other value = some (.array items)) :
    ∃ kept, at? other changed = some (.array kept) ∧
      (kept.length = items.length ∨
        kept.length = items.length + 1 ∧ other ++ [.item items.length] <+: place) ∧
      ∀ index < items.length,
        ¬ other ++ [.item index] <+: place → kept[index]? = items[index]? := by
  by_cases hOther : other <+: place
  · obtain ⟨hop, child, after, hPlace, hReplaces, hAfter⟩ := h.exists_replaces hOther hFound rfl
    cases hReplaces with
    | @item _ position hRoom =>
      refine ⟨_, hAfter, ?_, ?_⟩
      · apply (length_setItem hRoom child).imp_right
        rintro ⟨rfl, hLength⟩
        exact ⟨hLength, hPlace⟩
      · intro index _ hIndex
        apply getElem?_setItem_of_ne _ hRoom
        rintro rfl
        exact hIndex hPlace
  · exact ⟨items, (h.at?_of_not_prefix hOther).trans hFound, .inl rfl, fun _ _ _ => rfl⟩

end Sets

/-- There was an array at a location, and it is longer now. -/
def Grows (value changed : Json) (other : List Hop) : Prop :=
  ∃ items longer, at? other value = some (.array items) ∧
    at? other changed = some (.array longer) ∧ items.length < longer.length

/-- What has grown was followed to the position behind its last item. -/
theorem Grows.exists_items (hGrows : Grows value changed other)
    (h : Sets text value place changed) :
    ∃ items, at? other value = some (.array items) ∧ other ++ [.item items.length] <+: place := by
  obtain ⟨items, longer, hItems, hLonger, hLt⟩ := hGrows
  obtain ⟨kept, hKept, hLength, -⟩ := h.exists_items hItems
  cases hLonger.symm.trans hKept
  refine ⟨items, hItems, ?_⟩
  rcases hLength with hLength | ⟨-, hPlace⟩
  · omega
  · exact hPlace

/-- There was nothing behind the position behind the last item of an array. -/
theorem not_prefix_behind {last : List Hop} {items : List Json} {found : Json}
    (hItems : at? other value = some (.array items)) (hFound : at? last value = some found) :
    ¬ other ++ [.item items.length] <+: last := by
  rintro ⟨rest, rfl⟩
  rw [List.append_assoc, at?_append, hItems, Option.bind_some] at hFound
  simp [at?] at hFound

theorem Grows.unique {last : List Hop} (hGrows : Grows value changed other)
    (hLast : Grows value changed last) (h : Sets text value place changed) : other = last := by
  obtain ⟨items, hItems, hPlace⟩ := hGrows.exists_items h
  obtain ⟨others, hOthers, hPlace'⟩ := hLast.exists_items h
  rcases List.prefix_or_prefix_of_prefix hPlace hPlace' with hPrefix | hPrefix
  · rcases List.prefix_concat_iff.mp hPrefix with hEq | hPrefix
    · exact (List.append_inj' hEq rfl).1
    · exact absurd hPrefix (not_prefix_behind hItems hOthers)
  · rcases List.prefix_concat_iff.mp hPrefix with hEq | hPrefix
    · exact (List.append_inj' hEq rfl).1.symm
    · exact absurd hPrefix (not_prefix_behind hOthers hItems)

/-- A string can be set if and only if the path is not empty and leads somewhere, and there is no
array or object there. Then it is found under the path, at some location. Every location that does
not lead on to this one holds the same as before, so that every other scalar is kept; every object
keeps its members, every array keeps its items in their places, and at most one array has one item
more, behind the others. -/
theorem set_exact (document : Json) (path : List String) (text : String) :
    ((∃ changed, document.set path text = .ok changed) ↔
      path ≠ [] ∧ ∃ found, LeadsTo path (some document) found ∧
        (found.getD .null).isContainer = false) ∧
    ∀ changed, document.set path text = .ok changed →
      get? path changed = some (.string text) ∧
      ∃ place, locate? path changed = some place ∧
        (∀ other, ¬ other <+: place → at? other changed = at? other document) ∧
        (∀ other scalar, at? other document = some scalar → scalar.scalarText?.isSome = true →
          other ≠ place → at? other changed = some scalar) ∧
        (∀ other members, at? other document = some (.object members) →
          ∃ kept, at? other changed = some (.object kept) ∧
            ∀ name, (members.lookup name).isSome = true → (kept.lookup name).isSome = true) ∧
        (∀ other items, at? other document = some (.array items) →
          ∃ kept, at? other changed = some (.array kept) ∧
            (kept.length = items.length ∨ kept.length = items.length + 1) ∧
            ∀ index < items.length, ¬ other ++ [.item index] <+: place →
              kept[index]? = items[index]?) ∧
        ∀ other last, Grows document changed other → Grows document changed last →
          other = last := by
  rw [set_eq_overwrite]
  by_cases hPath : path = []
  · rw [if_pos hPath]
    exact ⟨⟨nofun, fun h => absurd hPath h.1⟩, nofun⟩
  rw [if_neg hPath, and_iff_right hPath]
  refine ⟨@exists_overwrite_iff text path (some document), fun changed hChanged => ?_⟩
  obtain ⟨place, hPlace, hSets⟩ := exists_sets hChanged
  refine ⟨get?_overwrite hChanged, place, hPlace, fun other => hSets.at?_of_not_prefix, ?_,
    fun other members => hSets.exists_members, ?_,
    fun other last hGrows hLast => hGrows.unique hLast hSets⟩
  · intro other scalar hScalar hText hNe
    by_cases hOther : other <+: place
    · rw [hSets.scalarText?_of_above hOther hNe hScalar] at hText
      cases hText
    · exact (hSets.at?_of_not_prefix hOther).trans hScalar
  · intro other items hItems
    obtain ⟨kept, hKept, hLength, hSame⟩ := hSets.exists_items hItems
    exact ⟨kept, hKept, hLength.imp_right And.left, hSame⟩

/-- An array of one item within an object. -/
def flags : Json := .object [("flags", .array [.bool true]), ("name", .null)]

/-- The position behind the item is given as `01` and led on from, which makes an object there and
leaves the item as it was. -/
theorem set_exact_appended :
    ∃ changed, flags.set ["flags", "01", "x"] "v" = .ok changed ∧
      get? ["flags", "01", "x"] changed = some (.string "v") ∧
      at? [.member "flags", .item 0] changed = some (.bool true) := by
  refine ⟨.object [("flags", .array [.bool true, .object [("x", .string "v")]]), ("name", .null)],
    rfl, ?_⟩
  obtain ⟨hFound, place, hPlace, hKept, -⟩ :=
    (set_exact flags ["flags", "01", "x"] "v").2 _ rfl
  obtain rfl : [.member "flags", .item 1, .member "x"] = place := Option.some.inj hPlace
  exact ⟨hFound, hKept [.member "flags", .item 0] (by decide)⟩

end ConfigStore.Json
