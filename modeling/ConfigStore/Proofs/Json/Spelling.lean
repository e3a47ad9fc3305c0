import ConfigStore.Proofs.Json.Enumeration
import ConfigStore.Proofs.Json.Locality
import Mathlib.Logic.ExistsUnique

/-!
# Spellings of places

A place in a document is reached by several paths, because a position can be written with a sign and
with leading zeros. One of these paths is canonical.

* `Json.spelling` is the canonical path to a location. It leads there (`Json.locate?_spelling`), and
  no other canonical path does (`Json.eq_spelling`).
* `Json.textAt?_of_locate?_ne`: a scalar is kept if a string is set at another location. Different
  canonical paths name different locations (`Json.locate?_ne_of_canonical`).
* `JsonFile.canonical_unaliased` says so of the document of a store, and that a read of the whole
  store lists the canonical paths with a scalar.
* `JsonFile.aliased_positions`: two spellings of one position overwrite each other.
-/

namespace ConfigStore.Json

open scoped Decimal

variable {value changed child scalar : Json} {hop step : Hop} {place spot : List Hop}
  {path other rest : List String} {name text : String}

/-! ## Names and hops -/

/-- The hop that a name stands for. -/
def hop? (name : String) : Json → Option Hop
  | object _ => some (.member name)
  | array _ => (Decimal.readIndex? name).map .item
  | null | bool _ | number _ | string _ => none

theorem hop?_of_not_container (name : String) (h : value.isContainer = false) :
    hop? name value = none := by
  cases value with
  | array | object => cases h
  | null | bool | number | string => rfl

theorem locate?_cons (name : String) (rest : List String) (value : Json) :
    locate? (name :: rest) value = (hop? name value).bind fun hop =>
      (at? [hop] value).bind fun inner => (locate? rest inner).map (hop :: ·) := by
  cases value with
  | null | bool | number | string => rfl
  | object members =>
    rw [locate?, hop?, Option.bind_some, at?]
    cases members.lookup name <;> rfl
  | array items =>
    rw [locate?, hop?]
    cases Decimal.readIndex? name with
    | none => rfl
    | some position =>
      rw [Option.map_some, Option.bind_some, Option.bind_some, at?]
      cases items[position]? <;> rfl

/-- What a path to a location consists of. -/
theorem locate?_cons_eq_some_iff :
    locate? (name :: rest) value = some place ↔
      ∃ hop inner below, hop? name value = some hop ∧ at? [hop] value = some inner ∧
        locate? rest inner = some below ∧ place = hop :: below := by
  rw [locate?_cons, Option.bind_eq_some_iff]
  simp only [Option.bind_eq_some_iff, Option.map_eq_some_iff]
  constructor
  · rintro ⟨hop, hHop, inner, hInner, below, hBelow, rfl⟩
    exact ⟨hop, inner, below, hHop, hInner, hBelow, rfl⟩
  · rintro ⟨hop, inner, below, hHop, hInner, hBelow, rfl⟩
    exact ⟨hop, hHop, inner, hInner, below, hBelow, rfl⟩

/-- The text at the end of a path is that of the scalar at the location that the path names. -/
theorem textAt?_eq_some_iff :
    textAt? path value = some text ↔
      ∃ place scalar, locate? path value = some place ∧ at? place value = some scalar ∧
        scalar.scalarText? = some text := by
  rw [textAt?, get?_eq_at?]
  simp only [Option.bind_eq_some_iff]
  constructor
  · rintro ⟨scalar, ⟨place, hPlace, hScalar⟩, hText⟩
    exact ⟨place, scalar, hPlace, hScalar, hText⟩
  · rintro ⟨place, scalar, hPlace, hScalar, hText⟩
    exact ⟨scalar, ⟨place, hPlace, hScalar⟩, hText⟩

/-! ## Other locations -/

/-- A name that stands for a hop goes on to stand for it when a part is replaced. -/
theorem Replaces.hop?_eq (h : Replaces value hop child changed)
    (hStep : hop? name value = some step) : hop? name changed = some step := by
  cases h with
  | null => cases hStep
  | member => exact hStep
  | item => exact hStep

/-- A path to a scalar names the same location when a string is set at another one. -/
theorem Sets.locate?_of_ne (h : Sets text value place changed)
    (hSpot : locate? path value = some spot) (hScalar : at? spot value = some scalar)
    (hText : scalar.scalarText?.isSome = true) (hNe : spot ≠ place) :
    locate? path changed = some spot := by
  induction h generalizing path spot with
  | here hValue =>
    cases path with
    | nil =>
      cases hSpot
      exact absurd rfl hNe
    | cons name rest =>
      rw [locate?_cons, hop?_of_not_container name hValue] at hSpot
      cases hSpot
  | @through value changed child hop place hHop _ ih =>
    cases path with
    | nil =>
      cases hSpot
      cases hScalar
      cases hHop <;> cases hText
    | cons name rest =>
      obtain ⟨step, inner, below, hStep, hInner, hBelow, rfl⟩ := locate?_cons_eq_some_iff.mp hSpot
      rw [at?_cons, hInner, Option.bind_some] at hScalar
      apply locate?_cons_eq_some_iff.mpr
      by_cases hHops : step = hop
      · subst hHops
        rw [hInner, Option.getD_some] at ih
        have hChanged : at? [step] changed = some child := hHop.at?_self []
        have hOther : below ≠ place := fun hEq => hNe (by rw [hEq])
        exact ⟨step, child, below, hHop.hop?_eq hStep, hChanged, ih hBelow hScalar hOther, rfl⟩
      · have hChanged : at? [step] changed = some inner := (hHop.at?_of_ne hHops []).trans hInner
        exact ⟨step, inner, below, hHop.hop?_eq hStep, hChanged, hBelow, rfl⟩

/-- A scalar at another location than that of the string is kept. -/
theorem Sets.at?_of_ne (h : Sets text value place changed) (hScalar : at? spot value = some scalar)
    (hText : scalar.scalarText?.isSome = true) (hNe : spot ≠ place) :
    at? spot changed = some scalar := by
  by_cases hSpot : spot <+: place
  · rw [h.scalarText?_of_above hSpot hNe hScalar] at hText
    cases hText
  · exact (h.at?_of_not_prefix hSpot).trans hScalar

theorem exists_sets_of_set (h : value.set path text = .ok changed) :
    ∃ place, locate? path changed = some place ∧ Sets text value place changed := by
  rw [set_eq_overwrite] at h
  split at h
  · cases h
  · exact exists_sets h

/-- The text of a scalar is kept when a string is set at a location that its path does not name. -/
theorem textAt?_of_locate?_ne {found : String} (h : value.set other text = .ok changed)
    (hFound : textAt? path value = some found) (hNe : locate? path value ≠ locate? other changed) :
    textAt? path changed = some found := by
  obtain ⟨place, hPlace, hSets⟩ := exists_sets_of_set h
  obtain ⟨spot, scalar, hSpot, hScalar, hText⟩ := textAt?_eq_some_iff.mp hFound
  have hSome : scalar.scalarText?.isSome = true := by
    rw [hText]
    rfl
  have hOther : spot ≠ place := by
    intro hEq
    apply hNe
    rw [hSpot, hPlace, hEq]
  exact textAt?_eq_some_iff.mpr ⟨spot, scalar, hSets.locate?_of_ne hSpot hScalar hSome hOther,
    hSets.at?_of_ne hScalar hSome hOther, hText⟩

/-! ## Canonical paths -/

/-- The name that a hop is listed under. -/
def Hop.spelled : Hop → String
  | member name => name
  | item position => Decimal.writeNat position

/-- The canonical path to a location. -/
def spelling (place : List Hop) : List String := place.map Hop.spelled

/-- The canonical path to a location leads there. -/
theorem locate?_spelling (hSound : value.Sound (2 ^ (64 : Nat)))
    (h : at? place value = some scalar) :
    locate? (spelling place) value = some place ∧ Canonical (spelling place) value := by
  induction place generalizing value with
  | nil => exact ⟨rfl, canonical_nil value⟩
  | cons hop place ih =>
    rw [at?_cons] at h
    obtain ⟨inner, hInner, hBelow⟩ := Option.bind_eq_some_iff.mp h
    cases value with
    | null | bool | number | string => cases hop <;> cases hInner
    | object members =>
      cases hop with
      | item position => cases hInner
      | member name =>
        have hMember : members.lookup name = some inner := by
          rw [at?] at hInner
          obtain ⟨member, hMember, hEq⟩ := Option.bind_eq_some_iff.mp hInner
          cases hEq
          exact hMember
        obtain ⟨hLocate, hCanonical⟩ :=
          ih (hSound.members.2 _ (Entries.mem_of_lookup_eq_some hMember)) hBelow
        refine ⟨locate?_cons_eq_some_iff.mpr ⟨_, inner, place, rfl, hInner, hLocate, rfl⟩, ?_⟩
        intro member hOther
        cases hMember.symm.trans hOther
        exact hCanonical
    | array items =>
      cases hop with
      | member name => cases hInner
      | item position =>
        obtain ⟨hLength, hItems⟩ := hSound.items
        have hItem : items[position]? = some inner := by
          rw [at?] at hInner
          obtain ⟨item, hItem, hEq⟩ := Option.bind_eq_some_iff.mp hInner
          cases hEq
          exact hItem
        have hIndex : position < items.length := (List.getElem?_eq_some_iff.mp hItem).1
        have hName : Decimal.readIndex? (Decimal.writeNat position) = some position :=
          Decimal.readIndex?_writeNat (by omega)
        obtain ⟨hLocate, hCanonical⟩ := ih (hItems inner (List.mem_of_getElem? hItem)) hBelow
        refine ⟨locate?_cons_eq_some_iff.mpr ⟨_, inner, place, ?_, hInner, hLocate, rfl⟩,
          Decimal.canonical_writeNat position, ?_⟩
        · exact congrArg (Option.map Hop.item) hName
        · intro index item hRead hOther
          cases hName.symm.trans hRead
          cases hItem.symm.trans hOther
          exact hCanonical

/-- There is one canonical path to a location only. -/
theorem eq_spelling (hCanonical : Canonical path value) (h : locate? path value = some place) :
    path = spelling place := by
  induction path generalizing value place with
  | nil =>
    cases h
    rfl
  | cons name rest ih =>
    obtain ⟨hop, inner, below, hHop, hInner, hBelow, rfl⟩ := locate?_cons_eq_some_iff.mp h
    cases value with
    | null | bool | number | string => cases hHop
    | object members =>
      cases hHop
      obtain ⟨member, hMember, hEq⟩ := Option.bind_eq_some_iff.mp hInner
      cases hEq
      exact congrArg (name :: ·) (ih (hCanonical inner hMember) hBelow)
    | array items =>
      obtain ⟨position, hPosition, rfl⟩ := Option.map_eq_some_iff.mp hHop
      obtain ⟨item, hItem, hEq⟩ := Option.bind_eq_some_iff.mp hInner
      cases hEq
      obtain ⟨hName, hRest⟩ := hCanonical
      rw [spelling, List.map_cons, Hop.spelled, Decimal.eq_writeNat_of_readIndex? hName hPosition]
      exact congrArg _ (ih (hRest position inner hPosition hItem) hBelow)

/-- A path stays canonical when a string is set at its end. -/
theorem Canonical.overwrite (hCanonical : Canonical path value)
    (h : overwrite text path value = .ok changed) : Canonical path changed := by
  induction path generalizing value changed with
  | nil => exact canonical_nil changed
  | cons name rest ih =>
    have hNull : Canonical rest null := by cases rest <;> trivial
    cases value with
    | bool | number | string => cases h
    | null =>
      rw [Json.overwrite] at h
      split at h
      next child hChild =>
        cases h
        intro member hMember
        rw [List.lookup_cons, beq_self_eq_true] at hMember
        cases hMember
        exact ih hNull hChild
      · cases h
    | object members =>
      rw [Json.overwrite] at h
      split at h
      next child hChild =>
        cases h
        intro member hMember
        rw [Entries.lookup_insert_self] at hMember
        cases hMember
        refine ih ?_ hChild
        cases hFound : members.lookup name with
        | none => exact hNull
        | some found => exact hCanonical found hFound
      · cases h
    | array items =>
      rw [Json.overwrite] at h
      split at h
      · cases h
      next position hPosition =>
        split at h
        next child hChild =>
          cases h
          obtain ⟨hRead, hRoom⟩ := position?_eq_some_iff.mp hPosition
          refine ⟨hCanonical.1, fun index item hIndex hItem => ?_⟩
          cases hRead.symm.trans hIndex
          rw [getElem?_setItem hRoom] at hItem
          cases hItem
          refine ih ?_ hChild
          cases hFound : items[position]? with
          | none => exact hNull
          | some found => exact hCanonical.2 position found hRead hFound
        · cases h

/-- Different canonical paths name different locations. -/
theorem locate?_ne_of_canonical {found : String} (hNe : path ≠ other)
    (hPath : Canonical path value) (hOther : Canonical other value)
    (hFound : textAt? path value = some found) (h : value.set other text = .ok changed) :
    locate? path value ≠ locate? other changed := by
  have hChanged : Canonical other changed := by
    rw [set_eq_overwrite] at h
    split at h
    · cases h
    · exact hOther.overwrite h
  obtain ⟨place, scalar, hPlace, -⟩ := textAt?_eq_some_iff.mp hFound
  intro hEq
  apply hNe
  rw [eq_spelling hPath hPlace, eq_spelling hChanged (hEq.symm.trans hPlace)]

end ConfigStore.Json

namespace ConfigStore.JsonFile

open scoped Decimal

/-- A scalar is kept when a string is set at another location than the one that its path names, and
hence whenever the two paths are different and canonical. Every part of the document, each scalar
among them, is reached by exactly one canonical path. A read of everything below the prefix lists
the canonical paths with a scalar but the empty one, which has no place in a tree. -/
theorem canonical_unaliased {store : JsonFile} (hSound : store.document.Sound (2 ^ (64 : Nat))) :
    (∀ path other found text changed, Json.textAt? path store.document = some found →
      store.document.set other text = .ok changed →
      Json.locate? path store.document ≠ Json.locate? other changed →
      Json.textAt? path changed = some found) ∧
    (∀ path other found text changed, path ≠ other → Json.Canonical path store.document →
      Json.Canonical other store.document → Json.textAt? path store.document = some found →
      store.document.set other text = .ok changed →
      Json.textAt? path changed = some found) ∧
    (∀ place part, Json.at? place store.document = some part →
      ∃! path, Json.Canonical path store.document ∧
        Json.locate? path store.document = some place) ∧
    ∃ tree, store.subtree "" = .ok tree ∧
      ∀ path text, tree.get? path = some (.leaf text) ↔
        path ≠ [] ∧ ∃ start, Json.get? store.scope.root store.document = some start ∧
          Json.Canonical path start ∧ Json.textAt? path start = some text := by
  refine ⟨?_, ?_, ?_, ?_⟩
  · intro path other found text changed hFound hSet hNe
    exact Json.textAt?_of_locate?_ne hSet hFound hNe
  · intro path other found text changed hNe hPath hOther hFound hSet
    have hApart := Json.locate?_ne_of_canonical hNe hPath hOther hFound hSet
    exact Json.textAt?_of_locate?_ne hSet hFound hApart
  · intro place part hPart
    obtain ⟨hLocate, hCanonical⟩ := Json.locate?_spelling hSound hPart
    refine ⟨Json.spelling place, ⟨hCanonical, hLocate⟩, ?_⟩
    rintro path ⟨hPath, hPlace⟩
    exact Json.eq_spelling hPath hPlace
  · have hTop : store.scope.resolve "" = store.scope.root := List.append_nil _
    rw [subtree, hTop]
    cases hGet : Json.get? store.scope.root store.document with
    | none =>
      refine ⟨_, rfl, fun path text => ?_⟩
      rw [Tree.get?, ← Node.valueAt?_eq_some_iff, Tree.valueAt?_empty]
      simp
    | some start =>
      have hStart : start.Sound (2 ^ (64 : Nat)) := hSound.get? hGet
      obtain ⟨tree, hTree, -, hValues⟩ := Json.exists_collect (Nat.le_refl _) hStart
        (store.scope.split "") store.scope.separator
      refine ⟨tree, hTree, fun path text => ?_⟩
      have hListed : (∃ rest, path = store.scope.split "" ++ rest ∧ (rest, text) ∈ start.scalars) ↔
          (path, text) ∈ start.scalars := by
        have hNil : store.scope.split "" = [] := rfl
        simp [hNil]
      rw [Tree.get?, ← Node.valueAt?_eq_some_iff, hValues, hListed,
        Json.mem_scalars_iff (Nat.le_refl _) hStart]
      simp

/-- A document with an array of one item. -/
def listed : JsonFile :=
  { file := "app.json", document := .object [("list", .array [.string "x"])] }

theorem sound_listed : listed.document.Sound (2 ^ (64 : Nat)) :=
  .object (by decide) (by simp [Json.Sound.array, Json.Sound.string])

/-- The item is kept when a string is set behind it. -/
theorem canonical_unaliased_listed :
    listed.document.Sound (2 ^ (64 : Nat)) ∧
      ∃ changed, listed.document.set ["list", "1"] "y" = .ok changed ∧
        Json.textAt? ["list", "0"] changed = some "x" := by
  refine ⟨sound_listed, .object [("list", .array [.string "x", .string "y"])], rfl, ?_⟩
  apply (canonical_unaliased sound_listed).1 ["list", "0"] ["list", "1"] "x" "y" _ rfl rfl
  decide

/-- A document that is a scalar. -/
def single : JsonFile := { file := "app.json", document := .string "x" }

/-- Two spellings of one position name the same item: it is found under both, it is listed under one
of them, and a string that is set under the other one replaces it. A document that is a scalar is
found under the empty path and not listed. -/
theorem aliased_positions :
    (["list", "0"] ≠ ["list", "00"] ∧
      Json.textAt? ["list", "0"] listed.document = some "x" ∧
      Json.textAt? ["list", "00"] listed.document = some "x" ∧
      ∃ changed, listed.document.set ["list", "00"] "y" = .ok changed ∧
        Json.textAt? ["list", "0"] changed = some "y") ∧
    (∃ tree, listed.subtree "" = .ok tree ∧ tree.get? ["list", "0"] = some (.leaf "x") ∧
      tree.get? ["list", "00"] = none) ∧
    Json.textAt? [] single.document = some "x" ∧
      single.subtree "" = .ok (Tree.empty single.scope.separator) := by
  refine ⟨⟨by decide, rfl, rfl, _, rfl, rfl⟩, ⟨_, rfl, rfl, rfl⟩, rfl, rfl⟩

end ConfigStore.JsonFile
