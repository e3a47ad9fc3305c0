import ConfigStore.Proofs.Consul.Decoding

/-!
# What was put is listed

A put names its key by a URL, and a listing names it by its text, which is cut into names again.

* `Consul.storedKey?` is the key that a URL stands for.
* `Consul.storedKey?_keyUrl`: for names that can stand in a URL it is the path from the top, joined
  by slashes.
* `ConsulClient.flatten_finds_put`: a listed value is found under the path that it was put at.
-/

namespace ConfigStore

namespace Consul

/-- What the paths of the URLs of all keys begin with, if the agent is at the top of its host. -/
def keyPrefix : List Char := "/v1/kv/".toList

/-- The key that a URL stands for. -/
def storedKey? (url : Url) : Option String :=
  if keyPrefix <+: url.pathText then
    (Utf8.decode (Percent.decode (url.pathText.drop keyPrefix.length))).toOption
  else none

theorem segmentOf_of_addressable (special : Bool) {name : String} (h : Addressable name) :
    Url.segmentOf special name.toList =
      Percent.encode (Url.Escape.segment special) name.toList := by
  have hName : Url.shortened name.toList = name.toList := shortened_eq_iff.mpr h.unbroken
  rw [Url.segmentOf, hName, if_neg]
  rintro (hDot | hDots)
  · exact h.ne_dot (String.toList_inj.mp hDot)
  · exact h.ne_dots (String.toList_inj.mp hDots)

/-- An agent at the top of its host stores a value under the names of its key, joined by slashes. -/
theorem storedKey?_keyUrl {address : Address} (hTop : Address.segments address.url = [[]])
    {key : List String} (hKey : key ≠ []) (h : ∀ name ∈ key, Addressable name) :
    storedKey? (address.keyUrl key) = some (Path.join defaultSeparator key) := by
  obtain ⟨first, rest, rfl⟩ := List.exists_cons_of_ne_nil hKey
  have hRoot : address.keyRoot = ["v1".toList, "kv".toList] := by
    rw [address.keyRoot_eq (by rw [hTop]; decide), Address.base, hTop]
    rfl
  have hParts : ∀ names : List String, (∀ name ∈ names, Addressable name) →
      ((names.map String.toList).map (Url.segmentOf address.url.special)) =
        (names.map String.toList).map
          (Percent.encode (Url.Escape.segment address.url.special)) := by
    intro names hNames
    rw [List.map_map, List.map_map, List.map_inj_left]
    exact fun name hName => segmentOf_of_addressable _ (hNames name hName)
  have hPrefix : ["v1".toList, "kv".toList].flatMap (fun name => '/' :: name) ++ ['/'] =
      keyPrefix := by decide
  have hText : (address.keyUrl (first :: rest)).pathText =
      keyPrefix ++ (Percent.encode (Url.Escape.segment address.url.special) first.toList ++
        (rest.map String.toList).flatMap fun name =>
          '/' :: Percent.encode (Url.Escape.segment address.url.special) name) := by
    rw [address.keyUrl_of_addressable hKey h, Url.pathText, Address.below, hParts _ h, hRoot,
      ← hPrefix, Url.UrlPath.write, List.flatMap_append, List.flatMap_map, List.map_cons,
      List.flatMap_cons, List.append_assoc]
    rfl
  rw [storedKey?, hText, if_pos (List.prefix_append _ _), List.drop_left,
    Percent.decode_encode_append (Url.segment_percent _),
    Percent.decode_flatMap_slash (Url.segment_percent _), Utf8.encode, Utf8.encode,
    ← List.flatMap_append, ← Utf8.encode, Utf8.decode_encode, List.flatMap_map,
    ← Path.toList_join_cons, String.ofList_toList]
  rfl

end Consul

namespace ConsulClient

open Consul

variable {client : ConsulClient} {path value : String}

/-- The names of a path can stand in a URL, and none of them has a slash in it. -/
def Spellable (client : ConsulClient) (path : String) : Prop :=
  ∀ name ∈ client.scope.resolve path, Addressable name ∧ defaultSeparator ∉ name.toList

instance (client : ConsulClient) : DecidablePred client.Spellable := fun path =>
  inferInstanceAs (Decidable (∀ name ∈ client.scope.resolve path,
    Addressable name ∧ defaultSeparator ∉ name.toList))

theorem clean_of_spellable (hRoot : Path.Clean defaultSeparator client.scope.root)
    (h : client.Spellable path) : Path.Clean defaultSeparator (client.scope.resolve path) := by
  intro name hName
  refine ⟨?_, (h name hName).2⟩
  rcases List.mem_append.mp hName with hMem | hMem
  · exact (hRoot name hMem).1
  · exact (Path.clean_split _ _ name hMem).1

/-- Of all records below a path only those of the path itself have its key. -/
theorem not_same_key {record : Record} (hPath : client.scope.split path ≠ [])
    (h : record.At (client.scope.resolve path))
    (hNames : Path.split defaultSeparator record.key ≠ client.scope.resolve path) :
    ¬ (record.relative client.scope ≠ [] ∧
      Path.join client.scope.separator (record.relative client.scope) =
        client.scope.join (client.scope.split path)) := by
  rintro ⟨-, hKey⟩
  obtain ⟨rest, hRest⟩ := h.prefix_relative
  rw [← hRest] at hKey
  have hNil := Path.eq_nil_of_join_append hPath hKey
  rw [hNil, List.append_nil] at hRest
  exact hNames (by rw [h.split_eq, ← hRest, Scope.resolve])

/-- At an agent at the top of its host a put has succeeded, and later the agent lists these records
when it is asked for the path of the put. They have the key that was stored with its value, and
nothing behind it has the same names. -/
structure ListsPut (client : ConsulClient) (path value : String) (writer reader : Agent)
    (records : List Record) : Prop where
  top : Address.segments client.address.url = [[]]
  cleanRoot : Path.Clean defaultSeparator client.scope.root
  hasNames : client.scope.split path ≠ []
  done : (client.put path value).run writer = .ok ()
  lists : client.Lists reader path records
  stored : ∃ request key before after, (client.put path value).request? = some request ∧
    storedKey? request.url = some key ∧
    records = before ++ ⟨key, some (Base64.write (Utf8.encode value.toList))⟩ :: after ∧
    ∀ later ∈ after, Path.split defaultSeparator later.key ≠ Path.split defaultSeparator key

/-- What a put has written is found where it was put, if the names of the path can stand in a URL
and all that is listed at and below the path are texts. -/
theorem flatten_finds_put {writer reader : Agent} {records : List Record}
    (h : client.ListsPut path value writer reader records) (hNames : client.Spellable path)
    (hTexts : ∀ record ∈ client.selected path records, ∃ text, record.Holds text) :
    ∃ map, client.flatten reader path = .ok map ∧
      map.get? (client.scope.join (client.scope.split path)) = some value := by
  obtain ⟨request, key, before, after, hRequest, hKey, rfl, hLast⟩ := h.stored
  have hClean := clean_of_spellable h.cleanRoot hNames
  -- the key that is stored is the one under which the listing has the path
  have hStored : storedKey? request.url =
      some (Path.join defaultSeparator (client.scope.resolve path)) := by
    rw [(request_of_put hRequest).2]
    exact storedKey?_keyUrl h.top (request_of_put hRequest).1
      fun name hName => (hNames name hName).1
  cases hKey.symm.trans hStored
  have hAt : (client.recordOf path (Utf8.encode value.toList)).At (client.scope.resolve path) :=
    at_recordOf hClean h.hasNames
  obtain ⟨map, hMap, hEntries⟩ := flatten_of_holds h.lists hTexts
  refine ⟨map, hMap, (hEntries _ _).mpr ⟨client.selected path before, _,
    client.selected path after, selected_append_cons hAt before after, ?_,
    holds_recordOf_iff.mpr rfl, fun later hLater => ?_⟩⟩
  · dsimp only
    rw [relative_recordOf hClean]
    exact ⟨h.hasNames, rfl⟩
  · refine not_same_key h.hasNames (at_of_mem_selected hLater) ?_
    rw [← Path.split_join hClean]
    exact hLast later (List.mem_filter.mp hLater).1

/-! ## Puts and listings on hand -/

/-- An agent that answers every request with the same text. -/
def answers (text : String) : Agent := fun _ => some ⟨200, Utf8.encode text.toList⟩

/-- A put that is accepted, and a listing with the key that it stored. -/
theorem listsPut_answers (client : ConsulClient) (path value key listing : String)
    (records before after : List Record) (hTop : Address.segments client.address.url = [[]])
    (hRoot : client.scope.root = []) (hPath : client.scope.split path ≠ [])
    (hPut : ((client.put path value).run (answers "true")).toOption = some ())
    (hKey : (client.put path value).request?.bind (storedKey? ·.url) = some key)
    (hAsked : (client.list path).request?.isSome = true)
    (hListing : Record.readAll? (Utf8.encode listing.toList) = some records)
    (hRecords : records = before ++ ⟨key, some (Base64.write (Utf8.encode value.toList))⟩ :: after)
    (hLast : ∀ later ∈ after,
      Path.split defaultSeparator later.key ≠ Path.split defaultSeparator key) :
    client.ListsPut path value (answers "true") (answers listing) records := by
  obtain ⟨request, hRequest, hStored⟩ := Option.bind_eq_some_iff.mp hKey
  obtain ⟨asked, hList⟩ := Option.isSome_iff_exists.mp hAsked
  exact ⟨hTop, by simp [hRoot, Path.Clean], hPath, Except.toOption_eq_some_iff.mp hPut,
    ⟨_, ⟨asked, hList, rfl⟩, rfl, hListing⟩,
    ⟨request, key, before, after, hRequest, hStored, hRecords, hLast⟩⟩

/-- A record without a value beside the one of a put. -/
def folderAndValue : List Record := [⟨"a bc", none⟩, ⟨"a b", some "dg=="⟩]

def listsFolderAndValue : Agent :=
  answers ("[\x7b\"Key\":\"a bc\",\"Value\":null\x7d," ++
    "\x7b\"Key\":\"a b\",\"Value\":\"dg==\"\x7d]")

theorem flatten_finds_put_app :
    internal.ListsPut "a b" "v" (answers "true") listsFolderAndValue folderAndValue ∧
      internal.Spellable "a b" ∧
      (∀ record ∈ internal.selected "a b" folderAndValue, ∃ text, record.Holds text) ∧
      ∃ map, internal.flatten listsFolderAndValue "a b" = .ok map ∧
        map.get? "a b" = some "v" := by
  have hListed : internal.ListsPut "a b" "v" (answers "true") listsFolderAndValue folderAndValue :=
    listsPut_answers internal "a b" "v" "a b" _ folderAndValue [⟨"a bc", none⟩] [] rfl rfl
      (by decide +kernel) (by decide +kernel) (by decide +kernel) (by decide +kernel)
      (by decide +kernel) (by decide +kernel) (List.forall_mem_nil _)
  have hNames : internal.Spellable "a b" := by decide +kernel
  have hSelected : internal.selected "a b" folderAndValue =
      [internal.recordOf "a b" (Utf8.encode "v".toList)] := by decide +kernel
  have hTexts : ∀ record ∈ internal.selected "a b" folderAndValue, ∃ text, record.Holds text := by
    rw [hSelected]
    simpa using ⟨"v", holds_recordOf_iff.mpr rfl⟩
  exact ⟨hListed, hNames, hTexts, flatten_finds_put hListed hNames hTexts⟩

/-- The value of a put beside one that stands for no text. -/
def valueAndBroken : List Record := [⟨"a", some "dg=="⟩, ⟨"a/b", some "?"⟩]

def listsValueAndBroken : Agent :=
  answers ("[\x7b\"Key\":\"a\",\"Value\":\"dg==\"\x7d," ++
    "\x7b\"Key\":\"a/b\",\"Value\":\"?\"\x7d]")

/-- An agent that lists one key with the value `v`. -/
def listsKey (key : String) : Agent :=
  answers ("[\x7b\"Key\":\"" ++ key ++ "\",\"Value\":\"dg==\"\x7d]")

/-- What was put is not found beside a value that stands for no text, nor with a slash in a name,
nor with a name that is dots or has a tab in it. -/
theorem put_not_found :
    (internal.ListsPut "a" "v" (answers "true") listsValueAndBroken valueAndBroken ∧
      internal.Spellable "a" ∧
      ¬ ∃ map, internal.flatten listsValueAndBroken "a" = .ok map ∧ map.get? "a" = some "v") ∧
    (dotted.ListsPut "a/b" "v" (answers "true") (listsKey "a/b") [⟨"a/b", some "dg=="⟩] ∧
      ¬ ∃ map, dotted.flatten (listsKey "a/b") "a/b" = .ok map ∧ map.get? "a/b" = some "v") ∧
    (internal.ListsPut "a/../b" "v" (answers "true") (listsKey "a/b") [⟨"a/b", some "dg=="⟩] ∧
      ¬ ∃ map, internal.flatten (listsKey "a/b") "a/../b" = .ok map ∧
        map.get? "a/../b" = some "v") ∧
    internal.ListsPut "a\tb" "v" (answers "true") (listsKey "ab") [⟨"ab", some "dg=="⟩] ∧
      ¬ ∃ map, internal.flatten (listsKey "ab") "a\tb" = .ok map ∧
        map.get? "a\tb" = some "v" := by
  have hNot : ∀ (client : ConsulClient) (agent : Agent) (path : String),
      (client.flatten agent path).toOption.bind (·.get? path) = none →
      ¬ ∃ map, client.flatten agent path = .ok map ∧ map.get? path = some "v" := by
    rintro client agent path hNone ⟨map, hMap, hFound⟩
    rw [hMap] at hNone
    cases hNone.symm.trans hFound
  refine ⟨⟨?_, by decide +kernel, hNot _ _ _ (by decide +kernel)⟩,
    ⟨?_, hNot _ _ _ (by decide +kernel)⟩, ⟨?_, hNot _ _ _ (by decide +kernel)⟩,
    ?_, hNot _ _ _ (by decide +kernel)⟩
  · exact listsPut_answers internal "a" "v" "a" _ valueAndBroken [] [⟨"a/b", some "?"⟩] rfl rfl
      (by decide +kernel) (by decide +kernel) (by decide +kernel) (by decide +kernel)
      (by decide +kernel) (by decide +kernel) (by decide +kernel)
  · exact listsPut_answers dotted "a/b" "v" "a/b" _ _ [] [] rfl rfl (by decide +kernel)
      (by decide +kernel) (by decide +kernel) (by decide +kernel) (by decide +kernel)
      (by decide +kernel) (List.forall_mem_nil _)
  · exact listsPut_answers internal "a/../b" "v" "a/b" _ _ [] [] rfl rfl (by decide +kernel)
      (by decide +kernel) (by decide +kernel) (by decide +kernel) (by decide +kernel)
      (by decide +kernel) (List.forall_mem_nil _)
  · exact listsPut_answers internal "a\tb" "v" "ab" _ _ [] [] rfl rfl (by decide +kernel)
      (by decide +kernel) (by decide +kernel) (by decide +kernel) (by decide +kernel)
      (by decide +kernel) (List.forall_mem_nil _)

end ConsulClient

end ConfigStore
