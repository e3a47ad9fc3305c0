import ConfigStore.Proofs.Consul.Addressing
import ConfigStore.Proofs.Consul.Selection

/-!
# Two decodings of a value

A single value is answered as it is and read leniently; in a listing it is answered in base64 and
read strictly.

* `Consul.Response.text_encode`: of a text that begins with a byte order mark the mark is dropped.
* `ConsulClient.flatten_eq_single_iff`: a listed value is read as the text whose bytes it is.
* `ConsulClient.get_agrees_iff`: both are the same if and only if the value is a text that does not
  begin with a byte order mark.
-/

namespace ConfigStore

namespace Consul

/-- A character that may stand in front of a text to tell its encoding. -/
def byteOrderMark : Char := '\uFEFF'

/-- The text behind a byte order mark. -/
def withoutMark (text : List Char) : List Char :=
  if text.head? = some byteOrderMark then text.tail else text

/-- A body that is a text is read as that text without a byte order mark. -/
theorem Response.text_encode (status : Nat) (text : List Char) :
    Response.text ⟨status, Utf8.encode text⟩ = String.ofList (withoutMark text) := by
  have hMark : [0xEF, 0xBB, 0xBF] = String.utf8EncodeChar byteOrderMark := by decide
  have hFirst : [0xEF, 0xBB, 0xBF].isPrefixOf (Utf8.encode text) = true ↔
      text.head? = some byteOrderMark := by
    rw [hMark, List.isPrefixOf_iff_prefix, Utf8.utf8EncodeChar_prefix_iff]
  rw [Response.text, withoutMark]
  by_cases hHead : text.head? = some byteOrderMark
  · obtain ⟨rest, rfl⟩ := List.head?_eq_some_iff.mp hHead
    rw [if_pos (hFirst.mpr hHead), if_pos hHead]
    exact Utf8.decodeLossy_encode rest
  · rw [if_neg (hFirst.not.mpr hHead), if_neg hHead, Utf8.decodeLossy_encode]

theorem withoutMark_eq_self_iff {text : List Char} :
    withoutMark text = text ↔ text.head? ≠ some byteOrderMark := by
  rw [withoutMark]
  split
  next hHead =>
    obtain ⟨rest, rfl⟩ := List.head?_eq_some_iff.mp hHead
    simp
  next hHead => simp [hHead]

end Consul

namespace ConsulClient

open Consul

variable {client : ConsulClient} {agent : Agent} {path : String} {stored : List UInt8}

/-- The map with one value, under the key of a path. -/
def single (client : ConsulClient) (path value : String) : NameMap String :=
  NameMap.ofList [(client.scope.join (client.scope.split path), value)]

theorem single_injective {value other : String}
    (h : client.single path value = client.single path other) : value = other := by
  have hFound := congrArg (·.get? (client.scope.join (client.scope.split path))) h
  simpa [single, NameMap.get?_ofList] using hFound

/-- The record of the key of a path, with these bytes as its value. -/
def recordOf (client : ConsulClient) (path : String) (stored : List UInt8) : Record :=
  ⟨Path.join defaultSeparator (client.scope.resolve path), some (Base64.write stored)⟩

theorem holds_recordOf_iff {text : String} :
    (client.recordOf path stored).Holds text ↔ stored = Utf8.encode text.toList := by
  constructor
  · rintro ⟨encoded, hEncoded, hText⟩
    cases hEncoded
    rw [Base64.encode_write] at hText
    exact Base64.encode_injective hText
  · rintro rfl
    exact ⟨_, rfl, Base64.encode_write _⟩

section

variable (hClean : Path.Clean defaultSeparator (client.scope.resolve path))

include hClean

theorem relative_recordOf :
    (client.recordOf path stored).relative client.scope = client.scope.split path := by
  rw [Record.relative, recordOf, Path.split_join hClean, Scope.resolve, List.drop_left]

variable (hPath : client.scope.split path ≠ [])

include hPath

/-- The record of the key of a path lies at the path. -/
theorem at_recordOf : (client.recordOf path stored).At (client.scope.resolve path) where
  hasValue := Option.some_ne_none _
  notFolder := by
    obtain ⟨c, hLast, hOther⟩ := Path.exists_getLast?_join hClean (by simp [Scope.resolve, hPath])
    rw [recordOf, hLast]
    exact fun hEq => hOther (Option.some.inj hEq)
  below := by
    rw [recordOf, Path.split_join hClean]

theorem selected_recordOf :
    client.selected path [client.recordOf path stored] = [client.recordOf path stored] :=
  List.filter_eq_self.mpr (by simpa using at_recordOf hClean hPath)

/-- What is read of a listing with nothing but the key of a path: the text whose bytes are the
value. -/
theorem flatten_eq_single_iff (hList : client.Lists agent path [client.recordOf path stored])
    {value : String} :
    client.flatten agent path = .ok (client.single path value) ↔
      stored = Utf8.encode value.toList := by
  have hFlatten := flatten_eq hList
  have hSelected : client.selected path [client.recordOf path stored] =
      [client.recordOf path stored] := selected_recordOf hClean hPath
  have hRead : ∀ text, (client.recordOf path stored).Holds text →
      client.flatten agent path = .ok (client.single path text) := by
    intro text hText
    have hValues : client.readListing path [client.recordOf path stored] =
        .ok ([client.recordOf path stored].map fun record =>
          (record.relative client.scope, text)) := by
      rw [← hSelected, readListing_selected]
      exact readListing_of_holds (by simpa [hSelected] using hText)
    rw [hFlatten, hValues, List.map_singleton, relative_recordOf hClean, Except.ok_map, mapOf,
      placed, List.filter_cons_of_pos (by simpa using hPath), List.filter_nil]
    rfl
  have hHolds : ∀ text, (client.recordOf path stored).Holds text ↔
      stored = Utf8.encode text.toList := fun text => holds_recordOf_iff
  rw [← hHolds]
  constructor
  · intro hValue
    by_cases hNone : ∀ text, ¬ (client.recordOf path stored).Holds text
    · obtain ⟨message, hFailed⟩ := readListing_of_not_holds
        (by rw [hSelected]; exact List.mem_singleton_self _) hNone
      rw [hFlatten, hFailed] at hValue
      cases hValue
    · obtain ⟨text, hText⟩ := not_forall_not.mp hNone
      rw [hRead text hText, Except.ok.injEq] at hValue
      rwa [← single_injective hValue]
  · exact hRead value

end

theorem run_get {response : Response} (h : (client.get path).Answered agent response)
    (hSuccess : response.isSuccess = true) :
    (client.get path).run agent = .ok (some response.text) := by
  rw [get] at h ⊢
  split at h
  · obtain ⟨request, hRequest, -⟩ := h
    cases hRequest
  next hKey =>
    rw [if_neg hKey, Exchange.run_send h, response.isNotFound_eq_false hSuccess, hSuccess]
    rfl

/-- The value at a path can be asked for alone or be listed. Alone it is read as a text in any case,
without a byte order mark; in a listing it has to be the bytes of a text, and is read as that. The
two agree if and only if it is a text that does not begin with a byte order mark. So a text that was
put is read back alone if and only if it does not begin with one. -/
theorem get_agrees_iff (hSeparator : client.scope.separator = defaultSeparator)
    (hRoot : Path.Clean defaultSeparator client.scope.root) (hPath : client.scope.split path ≠ [])
    (hGet : (client.get path).Answered agent ⟨200, stored⟩)
    (hList : client.Lists agent path [client.recordOf path stored]) :
    (client.get path).run agent = .ok (some (Response.text ⟨200, stored⟩)) ∧
    (∀ value, client.flatten agent path = .ok (client.single path value) ↔
      stored = Utf8.encode value.toList) ∧
    ((∀ value, (client.get path).run agent = .ok (some value) ↔
        client.flatten agent path = .ok (client.single path value)) ↔
      ∃ text : String, stored = Utf8.encode text.toList ∧
        text.toList.head? ≠ some byteOrderMark) ∧
    ∀ value request, (client.put path value).request? = some request →
      stored = Utf8.encode request.body.toList →
      (client.get path).run agent = .ok (some (String.ofList (withoutMark value.toList))) ∧
        ((client.get path).run agent = .ok (some value) ↔
          value.toList.head? ≠ some byteOrderMark) := by
  have hClean : Path.Clean defaultSeparator (client.scope.resolve path) :=
    hRoot.append (hSeparator ▸ Path.clean_split client.scope.separator path)
  have hFlatten : ∀ value, client.flatten agent path = .ok (client.single path value) ↔
      stored = Utf8.encode value.toList :=
    fun value => flatten_eq_single_iff hClean hPath hList
  have hRun := run_get hGet rfl
  have hText : ∀ text : String, stored = Utf8.encode text.toList →
      (client.get path).run agent = .ok (some (String.ofList (withoutMark text.toList))) := by
    rintro text rfl
    rw [hRun, Response.text_encode]
  have hSame : ∀ text : String, stored = Utf8.encode text.toList →
      ((client.get path).run agent = .ok (some text) ↔
        text.toList.head? ≠ some byteOrderMark) := by
    intro text hStored
    rw [hText text hStored, ← withoutMark_eq_self_iff, Except.ok.injEq, Option.some.injEq,
      ← String.toList_inj, String.toList_ofList]
  refine ⟨hRun, hFlatten, ⟨fun hAgree => ?_, ?_⟩, ?_⟩
  · have hStored := (hFlatten _).mp ((hAgree _).mp hRun)
    exact ⟨_, hStored, (hSame _ hStored).mp hRun⟩
  · rintro ⟨text, hStored, hHead⟩ value
    rw [hFlatten, (hSame text hStored).mpr hHead, Except.ok.injEq, Option.some.injEq, hStored]
    constructor
    · rintro rfl
      rfl
    · exact fun hBytes => String.toList_inj.mp (Utf8.encode_injective hBytes)
  · intro value request hRequest hStored
    rw [(request_of_put hRequest).2] at hStored
    exact ⟨hText value hStored, hSame value hStored⟩

/-- A text that begins with a byte order mark. -/
def marked : String := "\uFEFFx"

/-- An agent that holds this text at the key `a` and nothing else. -/
def holdsMarked : Agent := fun request =>
  if request.url.query = some "raw".toList then some ⟨200, Utf8.encode marked.toList⟩
  else some ⟨200, Utf8.encode "[\x7b\"Key\":\"a\",\"Value\":\"77u/eA==\"\x7d]".toList⟩

/-- Alone the value is read without its mark, in the listing with it. -/
theorem get_loses_mark :
    internal.scope = {} ∧
      (internal.get "a").Answered holdsMarked ⟨200, Utf8.encode marked.toList⟩ ∧
      internal.Lists holdsMarked "a" [internal.recordOf "a" (Utf8.encode marked.toList)] ∧
      (∃ request, (internal.put "a" marked).request? = some request ∧ request.body = marked) ∧
      (internal.get "a").run holdsMarked = .ok (some "x") ∧
      internal.flatten holdsMarked "a" = .ok (internal.single "a" marked) := by
  obtain ⟨asked, hAsked⟩ : ∃ request, (internal.get "a").request? = some request :=
    Option.isSome_iff_exists.mp (by decide +kernel)
  obtain ⟨listed, hListed⟩ : ∃ request, (internal.list "a").request? = some request :=
    Option.isSome_iff_exists.mp (by decide +kernel)
  obtain ⟨written, hWritten⟩ : ∃ request, (internal.put "a" marked).request? = some request :=
    Option.isSome_iff_exists.mp (by decide +kernel)
  have hBody : written.body = marked := by rw [(request_of_put hWritten).2]
  have hRaw : (internal.get "a").request?.map (·.url.query) = some (some "raw".toList) := by
    decide +kernel
  have hAll : (internal.list "a").request?.map (·.url.query) = some (some "recurse".toList) := by
    decide +kernel
  rw [hAsked, Option.map_some, Option.some.injEq] at hRaw
  rw [hListed, Option.map_some, Option.some.injEq] at hAll
  have hGet : (internal.get "a").Answered holdsMarked ⟨200, Utf8.encode marked.toList⟩ :=
    ⟨asked, hAsked, if_pos hRaw⟩
  have hList : internal.Lists holdsMarked "a" [internal.recordOf "a" (Utf8.encode marked.toList)] :=
    ⟨_, ⟨listed, hListed, if_neg (by rw [hAll]; decide)⟩, rfl, by decide +kernel⟩
  obtain ⟨-, hFlatten, -, hPut⟩ :=
    get_agrees_iff rfl (by simp [Path.Clean, internal]) (by decide +kernel) hGet hList
  obtain ⟨hLost, -⟩ := hPut marked written hWritten (by rw [hBody])
  exact ⟨rfl, hGet, hList, ⟨written, hWritten, hBody⟩, hLost, (hFlatten marked).mpr rfl⟩

end ConsulClient

end ConfigStore
