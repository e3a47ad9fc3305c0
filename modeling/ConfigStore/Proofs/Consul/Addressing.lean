import ConfigStore.Consul.Client
import ConfigStore.Proofs.Url.Segments

/-!
# The URLs of keys

* `Consul.spelled_segmentOf_iff`: which names are spelled by the segments that stand for them.
* `Consul.Address.keyUrl_spells_iff`: the URL of a key spells it if and only if all of its names
  are addressable.
* `ConsulClient.put_spells_iff`: so does the URL that a put writes to.

The names `.` and `..` are not addressable, nor is a name with a tab or a line end in it. Where a
key has such a name its URL may be that of another key.
-/

namespace ConfigStore

namespace Consul

/-- A name that can be part of a key in a URL. -/
structure Addressable (name : String) : Prop where
  ne_dot : name ≠ "."
  ne_dots : name ≠ ".."
  unbroken : ∀ c ∈ name.toList, Url.isTabOrNewline c = false

instance : DecidablePred Addressable := fun name =>
  decidable_of_iff
    (name ≠ "." ∧ name ≠ ".." ∧ name.toList.any Url.isTabOrNewline = false)
    ⟨fun ⟨hDot, hDots, hUnbroken⟩ => ⟨hDot, hDots, by simpa using hUnbroken⟩,
      fun h => ⟨h.ne_dot, h.ne_dots, by simpa using h.unbroken⟩⟩

theorem shortened_eq_iff {name : String} :
    Url.shortened name.toList = name.toList ↔
      ∀ c ∈ name.toList, Url.isTabOrNewline c = false := by
  rw [Url.shortened, List.filter_eq_self]
  simp only [Bool.not_eq_true']

/-- The segment that stands for a name spells it exactly if the name is addressable. -/
theorem spelled_segmentOf_iff (special : Bool) (name : String) :
    Url.spelled (Url.segmentOf special name.toList) = .ok name ↔ Addressable name := by
  by_cases hDots : Url.shortened name.toList = ['.'] ∨ Url.shortened name.toList = ['.', '.']
  · have hEmpty : Url.spelled (Url.segmentOf special name.toList) = .ok "" := by
      rw [Url.segmentOf, if_pos hDots]
      exact Url.spelled_encode (Url.segment_percent special) []
    rw [hEmpty]
    constructor
    · rintro ⟨⟩
      exact absurd hDots (by decide)
    · intro hAddressable
      rw [shortened_eq_iff.mpr hAddressable.unbroken] at hDots
      rcases hDots with hDot | hDot
      · exact absurd (String.toList_inj.mp hDot) hAddressable.ne_dot
      · exact absurd (String.toList_inj.mp hDot) hAddressable.ne_dots
  · rw [Url.segmentOf, if_neg hDots, Url.spelled_encode (Url.segment_percent special)]
    constructor
    · intro hSpelled
      have hSame : Url.shortened name.toList = name.toList := by
        rw [← Except.ok.inj hSpelled, String.toList_ofList, Url.shortened, Url.shortened,
          List.filter_filter]
        simp only [Bool.and_self]
      rw [hSame] at hDots
      refine ⟨?_, ?_, shortened_eq_iff.mp hSame⟩
      · rintro rfl
        exact hDots (.inl rfl)
      · rintro rfl
        exact hDots (.inr rfl)
    · intro hAddressable
      rw [shortened_eq_iff.mpr hAddressable.unbroken, String.ofList_toList]

namespace Address

variable (address : Address)

/-- The segments of the path of the agent, without an empty one at the end. -/
def base : List (List Char) :=
  if (segments address.url).getLast? = some [] then (segments address.url).dropLast
  else segments address.url

/-- What the URLs of all keys begin with. -/
def keyRoot : List (List Char) :=
  Url.stem (Url.popEmptySegment (segments address.url)) ++ ["v1".toList, "kv".toList]

/-- All keys stand behind `v1` and `kv`, which stand behind the path of the agent. If that consists
of two slashes, both are left out. -/
theorem keyRoot_eq (h : segments address.url ≠ [[], []]) :
    address.keyRoot = address.base ++ ["v1".toList, "kv".toList] := by
  rw [keyRoot, Url.stem_popEmptySegment h, base]

/-- The URL of the agent with other segments behind the root of all keys. -/
def below (parts : List (List Char)) : Url :=
  { address.url with path := .rooted (address.keyRoot ++ parts) }

/-- A URL spells a key if it has a segment for each name behind the root of all keys, which spells
the name. -/
def SpellsKey (url : Url) (key : List String) : Prop :=
  ∃ parts, url = address.below parts ∧ parts.map Url.spelled = key.map Except.ok

variable {address} in
theorem below_injective {parts others : List (List Char)}
    (h : address.below parts = address.below others) : parts = others := by
  rw [below, below, Url.mk.injEq, Url.UrlPath.rooted.injEq] at h
  exact List.append_cancel_left h.2.2.1

theorem lt_length_keyRoot : 1 < address.keyRoot.length := by
  rw [keyRoot, List.length_append]
  exact Nat.lt_of_lt_of_le (by decide) (Nat.le_add_left _ _)

theorem foldl_pushSegment_keyRoot :
    ["v1".toList, "kv".toList].foldl (Url.pushSegment address.url.special)
      (Url.popEmptySegment (segments address.url)) = address.keyRoot := by
  have hVersion : Url.segmentOf address.url.special "v1".toList = "v1".toList := by
    cases address.url.special <;> rfl
  have hStore : Url.segmentOf address.url.special "kv".toList = "kv".toList := by
    cases address.url.special <;> rfl
  rw [List.foldl_cons, List.foldl_cons, List.foldl_nil, Url.pushSegment_of_ne _ (by decide),
    Url.pushSegment_of_ne _ (by decide), if_neg (by decide), if_neg (by decide), hVersion, hStore,
    Url.stem, if_neg, List.append_assoc]
  · rfl
  · intro hTop
    have hLast := congrArg List.getLast? hTop
    rw [List.getLast?_concat] at hLast
    exact absurd hLast (by decide)

/-- The names of a key are put behind the root of all keys. -/
theorem keyUrl_eq {key : List String} (hKey : key ≠ []) :
    address.keyUrl key =
      { address.url with
        path := .rooted ((key.map String.toList).foldl (Url.pushSegment address.url.special)
          address.keyRoot) } := by
  rw [keyUrl, keySegments, if_neg hKey, ← foldl_pushSegment_keyRoot]
  rfl

/-- The segments that stand for the names of a key spell them exactly if all are addressable. -/
theorem map_spelled_segmentOf_iff (special : Bool) (key : List String) :
    ((key.map String.toList).map (Url.segmentOf special)).map Url.spelled = key.map Except.ok ↔
      ∀ name ∈ key, Addressable name := by
  simp only [List.map_map, List.map_inj_left, Function.comp_apply, spelled_segmentOf_iff]

theorem keyUrl_of_addressable {key : List String} (hKey : key ≠ [])
    (h : ∀ name ∈ key, Addressable name) :
    address.keyUrl key =
      address.below ((key.map String.toList).map (Url.segmentOf address.url.special)) := by
  rw [keyUrl_eq address hKey,
    Url.foldl_pushSegment_of_ne address.url.special _ address.lt_length_keyRoot, below]
  intro text hText
  obtain ⟨name, hName, rfl⟩ := List.mem_map.mp hText
  have hAddressable := h name hName
  rw [shortened_eq_iff.mpr hAddressable.unbroken]
  exact ⟨fun hDot => hAddressable.ne_dot (String.toList_inj.mp hDot),
    fun hDots => hAddressable.ne_dots (String.toList_inj.mp hDots)⟩

theorem keyUrl_spells_iff {key : List String} (hKey : key ≠ []) :
    address.SpellsKey (address.keyUrl key) key ↔ ∀ name ∈ key, Addressable name := by
  constructor
  · rintro ⟨parts, hUrl, hParts⟩
    have hLength : parts.length = (key.map String.toList).length := by
      rw [List.length_map, ← List.length_map Url.spelled, hParts, List.length_map]
    have hSegments : (key.map String.toList).foldl (Url.pushSegment address.url.special)
        address.keyRoot = address.keyRoot ++ parts := by
      rw [keyUrl_eq address hKey, below, Url.mk.injEq, Url.UrlPath.rooted.injEq] at hUrl
      exact hUrl.2.2.1
    -- As many segments as names are there, so none was left out or taken away.
    have hKept := Url.foldl_pushSegment_of_length address.url.special
      (key.map String.toList) address.lt_length_keyRoot
      (Nat.le_of_eq (by rw [hSegments, List.length_append, hLength]))
    rw [hSegments] at hKept
    rw [List.append_cancel_left hKept] at hParts
    exact (map_spelled_segmentOf_iff _ _).mp hParts
  · intro h
    exact ⟨_, keyUrl_of_addressable address hKey h, (map_spelled_segmentOf_iff _ _).mpr h⟩

variable {address} in
/-- A URL spells one key at most. -/
theorem SpellsKey.unique {url : Url} {key other : List String} (h : address.SpellsKey url key)
    (hOther : address.SpellsKey url other) : key = other := by
  obtain ⟨parts, hUrl, hParts⟩ := h
  obtain ⟨others, hOtherUrl, hOthers⟩ := hOther
  rw [below_injective (hUrl.symm.trans hOtherUrl), hOthers] at hParts
  exact (List.map_inj_right fun _ _ => Except.ok.inj).mp hParts.symm

/-- The names `.` and `..` leave no trace in the URL of a key. -/
theorem keyUrl_dots {front back : List String} (hRest : front ++ back ≠ []) {name : String}
    (hName : name = "." ∨ name = "..") :
    address.keyUrl (front ++ name :: back) = address.keyUrl (front ++ back) := by
  have hDots : name.toList = ['.'] ∨ name.toList = ['.', '.'] := by
    rcases hName with rfl | rfl
    · exact .inl rfl
    · exact .inr rfl
  rw [keyUrl_eq address (by simp), keyUrl_eq address hRest, List.map_append, List.map_cons,
    List.foldl_append, List.foldl_cons, Url.pushSegment_of_dots _ hDots, ← List.foldl_append,
    ← List.map_append]

end Address

end Consul

namespace ConsulClient

open Consul

variable {client : ConsulClient} {path value : String} {request : Request}

theorem request_of_send {α : Type} {asked : Request} {read : Response → Except Error α}
    (h : (Exchange.send asked read).request? = some request) : request = asked := by
  unfold Exchange.send at h
  split at h
  · cases h
  · exact (Option.some.inj h).symm

theorem request_of_put (h : (client.put path value).request? = some request) :
    client.scope.resolve path ≠ [] ∧
      request = {
        method := .put, url := client.address.keyUrl (client.scope.resolve path),
        token := client.token, body := value } := by
  rw [put] at h
  dsimp only at h
  split at h
  · cases h
  next hKey => exact ⟨hKey, request_of_send h⟩

/-- What a put writes to is the key of its path if and only if all names of the path are
addressable. All keys stand behind `v1` and `kv`, which stand behind the path of the agent. Two keys
with such names have different URLs, and the names `.` and `..` make no difference, so that a put
at a path with one of them writes to another key. -/
theorem put_spells_iff (address : Address) :
    (Address.segments address.url ≠ [[], []] →
      address.keyRoot = address.base ++ ["v1".toList, "kv".toList]) ∧
    (∀ key : List String, key ≠ [] →
      (address.SpellsKey (address.keyUrl key) key ↔ ∀ name ∈ key, Addressable name)) ∧
    (∀ key other : List String, key ≠ [] → other ≠ [] → (∀ name ∈ key, Addressable name) →
      (∀ name ∈ other, Addressable name) → address.keyUrl key = address.keyUrl other →
      key = other) ∧
    (∀ (client : ConsulClient) (path value : String) (request : Request),
      client.address = address → (client.put path value).request? = some request →
      request.method = .put ∧ request.body = value ∧
        (address.SpellsKey request.url (client.scope.resolve path) ↔
          ∀ name ∈ client.scope.resolve path, Addressable name)) ∧
    (∀ (front back : List String) (name : String), front ++ back ≠ [] →
      name = "." ∨ name = ".." →
      address.keyUrl (front ++ name :: back) = address.keyUrl (front ++ back)) := by
  refine ⟨address.keyRoot_eq, fun key hKey => address.keyUrl_spells_iff hKey, ?_, ?_,
    fun front back name hRest hName => address.keyUrl_dots hRest hName⟩
  · intro key other hKey hOther hNames hOthers hUrl
    have hSpelled := (address.keyUrl_spells_iff hKey).mpr hNames
    rw [hUrl] at hSpelled
    exact hSpelled.unique ((address.keyUrl_spells_iff hOther).mpr hOthers)
  · rintro client path value request rfl hRequest
    obtain ⟨hKey, rfl⟩ := request_of_put hRequest
    exact ⟨rfl, rfl, client.address.keyUrl_spells_iff hKey⟩

/-- A client of the agent on `consul.internal`. -/
def internal : ConsulClient where
  address :=
    { url :=
        { scheme := "http"
          authority :=
            some { host := some (.name "consul.internal".toList), port := some defaultPort }
          path := .rooted [[]]
          query := none
          fragment := none }
      isRooted := rfl }
  token := none

/-- A put at `a/../b` writes to the key `a/b`, and its URL does not spell the path. -/
theorem put_dots_overwrites :
    ∃ request other,
      Address.read "http://consul.internal:8500/" = .ok internal.address ∧
      (internal.put "a/../b" "v").request? = some request ∧
      (internal.put "a/b" "w").request? = some other ∧
      request.url = other.url ∧ internal.address.SpellsKey request.url ["a", "b"] ∧
      ¬ internal.address.SpellsKey request.url ["a", "..", "b"] := by
  obtain ⟨⟨url, hRooted⟩, hRead, hUrl⟩ : ∃ address : Address,
      Address.read "http://consul.internal:8500/" = .ok address ∧
        address.url = internal.address.url := by
    apply Except.map_eq_ok_iff.mp
    exact Except.toOption_eq_some_iff.mp (by decide +kernel)
  cases hUrl
  obtain ⟨request, hRequest⟩ : ∃ request, (internal.put "a/../b" "v").request? = some request :=
    Option.isSome_iff_exists.mp (by decide +kernel)
  obtain ⟨other, hOther⟩ : ∃ other, (internal.put "a/b" "w").request? = some other :=
    Option.isSome_iff_exists.mp (by decide +kernel)
  obtain ⟨-, -, -, hPuts, hDots⟩ := put_spells_iff internal.address
  have hDotted : ["a", "..", "b"] = internal.scope.resolve "a/../b" := by decide
  have hPlain : ["a", "b"] = internal.scope.resolve "a/b" := by decide
  have hUrls : request.url = other.url := by
    rw [(request_of_put hRequest).2, (request_of_put hOther).2, ← hDotted, ← hPlain]
    exact hDots ["a"] ["b"] ".." (by decide) (.inr rfl)
  obtain ⟨-, -, hSpells⟩ := hPuts internal "a/../b" "v" request rfl hRequest
  obtain ⟨-, -, hOtherSpells⟩ := hPuts internal "a/b" "w" other rfl hOther
  rw [← hDotted] at hSpells
  rw [← hPlain] at hOtherSpells
  refine ⟨request, other, hRead, hRequest, hOther, hUrls, ?_, ?_⟩
  · rw [hUrls]
    exact hOtherSpells.mpr (by decide)
  · intro h
    exact absurd (hSpells.mp h) (by decide)

end ConsulClient

end ConfigStore
