import ConfigStore.Proofs.Consul.Selection
import ConfigStore.Proofs.Json.Raw

/-!
# Listings as they are written

An agent writes a listing as an array of objects. Which of these are records depends on two of
their members only.

* `Consul.Record.ofMembers?_eq_some_iff`: a record has exactly one key and one value at most.
* `Consul.Record.readAll?_write`: the records of a listing that is written are read back.
* `ConsulClient.lists_of_answered`: so an agent can list any records.
-/

namespace ConfigStore

namespace Consul.Record

/-! ## Members -/

section Members

variable {members : List (String × Json.Raw)}

theorem field?_eq_some_none_iff {name : String} :
    field? name members = some none ↔ ∀ member ∈ members, member.1 ≠ name := by
  have hNil : (members.filter (·.1 = name) = []) ↔ ∀ member ∈ members, member.1 ≠ name := by
    simp
  rw [← hNil, field?]
  split
  next hFilter => exact ⟨fun _ => hFilter, fun _ => rfl⟩
  next hFilter =>
    rw [hFilter]
    exact ⟨nofun, nofun⟩
  next hSome _ => exact ⟨nofun, fun hFilter => absurd hFilter hSome⟩

theorem field?_eq_some_some_iff {name : String} {value : Json.Raw} :
    field? name members = some (some value) ↔ members.filter (·.1 = name) = [(name, value)] := by
  rw [field?]
  split
  next hFilter =>
    rw [hFilter]
    exact ⟨nofun, nofun⟩
  next first found hFilter =>
    have hMem : (first, found) ∈ members.filter (·.1 = name) := by
      rw [hFilter]
      exact List.mem_singleton_self _
    have hName : first = name := of_decide_eq_true (List.mem_filter.mp hMem).2
    rw [hFilter, hName]
    constructor
    · intro h
      cases h
      rfl
    · intro h
      cases h
      rfl
  next hOther => exact ⟨nofun, fun hFilter => absurd hFilter (hOther _ _)⟩

/-- A record has exactly one key, and one value at most. No value of another member counts. -/
theorem ofMembers?_eq_some_iff {record : Record} :
    ofMembers? members = some record ↔
      (∃ key, members.filter (·.1 = "Key") = [("Key", key)] ∧ key.text? = some record.key) ∧
      ((∀ member ∈ members, member.1 ≠ "Value") ∧ record.value = none ∨
        ∃ value, members.filter (·.1 = "Value") = [("Value", value)] ∧
          readValue? value = some record.value) := by
  simp only [← field?_eq_some_some_iff, ← field?_eq_some_none_iff]
  constructor
  · intro h
    simp only [ofMembers?, Option.bind_eq_bind, Option.bind_eq_some_iff, Option.pure_def,
      Option.some.injEq] at h
    obtain ⟨_, hKey, value?, hValue, key, rfl, text, hText, found, hFound, rfl⟩ := h
    refine ⟨⟨key, hKey, hText⟩, ?_⟩
    cases value? with
    | none =>
      cases hFound
      exact .inl ⟨hValue, rfl⟩
    | some value => exact .inr ⟨value, hValue, hFound⟩
  · rintro ⟨⟨key, hKey, hText⟩, ⟨hValue, hNone⟩ | ⟨value, hValue, hFound⟩⟩
    · have hFound : readValue? .null = some record.value := by rw [hNone]; rfl
      simp [ofMembers?, hKey, hValue, hText, hFound]
    · simp [ofMembers?, hKey, hValue, hText, hFound]

/-- A second key is one too many, even of the same text. -/
example : readAll? (Utf8.encode "[\x7b\"Key\":\"a\",\"Key\":\"a\"\x7d]".toList) = none := by
  decide +kernel

end Members

/-! ## Listings -/

def toJson (record : Record) : Json :=
  .object [("Key", .string record.key), ("Value", record.value.elim .null .string)]

/-- A listing as an agent writes it. -/
def writeAll (records : List Record) : List UInt8 :=
  Utf8.encode (Json.compactChars (.array (records.map toJson)))

/-- What is written of a text between its quotation marks. -/
def inner (text : String) : List Char := Json.written (text.toList.flatMap Json.escape)

def valueToken (value : Option String) : Json.Token :=
  value.elim .null fun text => .text (inner text)

/-- The tokens of a record. -/
def tokens (record : Record) : List Json.Token :=
  [.openObject, .text (inner "Key"), .colon, .text (inner record.key), .comma,
    .text (inner "Value"), .colon, valueToken record.value, .closeObject]

/-- The document that a record is. -/
def toRaw (record : Record) : Json.Raw :=
  .object [(inner "Key", .text (inner record.key)),
    (inner "Value", record.value.elim .null fun text => .text (inner text))]

section Tokens

variable {more : List Char} {others : List Json.Token} (hMore : Json.tokens? more = some others)
include hMore

theorem tokens?_value (value : Option String) :
    Json.tokens? (Json.written (Json.compactChars (value.elim .null .string)) ++ more) =
      some (valueToken value :: others) := by
  cases value with
  | none => exact Json.tokens?_null hMore
  | some text => exact Json.tokens?_quote text hMore

theorem tokens?_toJson (record : Record) :
    Json.tokens? (Json.written (Json.compactChars record.toJson) ++ more) =
      some (record.tokens ++ others) := by
  have hChars : Json.written (Json.compactChars record.toJson) ++ more =
      '\x7b' :: (Json.written (Json.quote "Key") ++ ':' ::
        (Json.written (Json.quote record.key) ++ ',' ::
          (Json.written (Json.quote "Value") ++ ':' ::
            (Json.written (Json.compactChars (record.value.elim .null .string)) ++
              '\x7d' :: more)))) := by
    rw [toJson, Json.compactChars, Json.compactMembers, Json.compactMembers, Json.compactChars]
    · simp (disch := decide) only [Json.written_cons, Json.written_append, List.cons_append,
        List.append_assoc]
      rfl
    · nofun
  rw [hChars]
  apply Json.tokens?_mark rfl rfl
  apply Json.tokens?_quote
  apply Json.tokens?_mark rfl rfl
  apply Json.tokens?_quote
  apply Json.tokens?_mark rfl rfl
  apply Json.tokens?_quote
  apply Json.tokens?_mark rfl rfl
  apply tokens?_value
  exact Json.tokens?_mark rfl rfl hMore

theorem tokens?_behind (records : List Record) :
    Json.tokens? (Json.written (records.flatMap fun record =>
        ',' :: Json.compactChars record.toJson) ++ more) =
      some ((records.flatMap fun record => .comma :: record.tokens) ++ others) := by
  induction records with
  | nil => exact hMore
  | cons first rest ih =>
    rw [List.flatMap_cons, List.flatMap_cons, List.cons_append, Json.written_cons (by decide),
      Json.written_append, List.cons_append, List.append_assoc, List.cons_append, List.cons_append,
      List.append_assoc]
    exact Json.tokens?_mark rfl rfl (tokens?_toJson ih first)

end Tokens

theorem compactItems_cons (item : Json) (rest : List Json) :
    Json.compactItems (item :: rest) =
      Json.compactChars item ++ rest.flatMap fun other => ',' :: Json.compactChars other := by
  induction rest generalizing item with
  | nil =>
    rw [Json.compactItems, List.flatMap_nil, List.append_nil]
  | cons other rest ih =>
    rw [Json.compactItems, ih, List.flatMap_cons]
    · rfl
    · nofun

theorem tokens?_end : Json.tokens? [']'] = some [.closeArray] :=
  Json.tokens?_mark rfl rfl (by rw [Json.tokens?]; rfl)

/-- The tokens of a listing are those of its records with commas between them. -/
theorem tokens?_listing (first : Record) (rest : List Record) :
    Json.tokens? (Json.written (Json.compactChars (.array ((first :: rest).map toJson)))) =
      some (.openArray :: (first.tokens ++
        ((rest.flatMap fun record => .comma :: record.tokens) ++ [.closeArray]))) := by
  rw [Json.compactChars, List.map_cons, compactItems_cons, List.flatMap_map]
  simp (disch := decide) only [Json.written_cons, Json.written_append, List.cons_append,
    List.append_assoc]
  exact Json.tokens?_mark rfl rfl (tokens?_toJson (tokens?_behind tokens?_end rest) first)

theorem readValue_tokens (stack : List Json.Raw.Frame) (record : Record) (rest : List Json.Token) :
    Json.Raw.readValue stack (record.tokens ++ rest) =
      Json.Raw.finish stack record.toRaw rest := by
  obtain ⟨key, value | value⟩ := record <;> rfl

theorem finish_behind (items : List Json.Raw) (part : Json.Raw) (records : List Record) :
    Json.Raw.finish [.array items] part
        ((records.flatMap fun record => .comma :: record.tokens) ++ [.closeArray]) =
      some (.array (items ++ part :: records.map toRaw)) := by
  induction records generalizing items part with
  | nil => rfl
  | cons first rest ih =>
    rw [List.flatMap_cons, List.cons_append, List.cons_append, List.append_assoc,
      Json.Raw.finish, readValue_tokens, ih, List.append_assoc]
    rfl

theorem readValue?_inner (value : Option String) :
    readValue? (value.elim .null fun text => .text (inner text)) = some value := by
  cases value with
  | none => rfl
  | some text => exact congrArg (Option.map some) (Json.Raw.readText?_written text)

theorem ofRaw?_toRaw (record : Record) : ofRaw? record.toRaw = some record := by
  have hNamed : ∀ (name : String) (value : Json.Raw),
      named? (inner name, value) = some (name, value) := by
    intro name value
    exact congrArg (Option.map (·, value)) (Json.Raw.readText?_written name)
  rw [toRaw, ofRaw?, List.mapM_cons, List.mapM_cons, List.mapM_nil, hNamed, hNamed]
  apply ofMembers?_eq_some_iff.mpr
  refine ⟨⟨.text (inner record.key), by simp, Json.Raw.readText?_written record.key⟩, .inr ?_⟩
  exact ⟨_, by simp, readValue?_inner record.value⟩

theorem mapM_toRaw (records : List Record) : (records.map toRaw).mapM ofRaw? = some records := by
  induction records with
  | nil => rfl
  | cons first rest ih =>
    rw [List.map_cons, List.mapM_cons, ofRaw?_toRaw, ih]
    rfl

/-- The records of a listing that is written are read back. -/
theorem readAll?_write (records : List Record) : readAll? (writeAll records) = some records := by
  have hRead : Json.Raw.read? (writeAll records) = some (.array (records.map toRaw)) := by
    cases records with
    | nil =>
      change (Json.tokens? ('[' :: [']'])).bind (Json.Raw.readValue []) = _
      rw [Json.tokens?_mark rfl rfl tokens?_end]
      rfl
    | cons first rest =>
      change (Json.tokens? (Json.written _)).bind (Json.Raw.readValue []) = _
      rw [tokens?_listing, Option.bind_some]
      change Json.Raw.readValue [.array []] (first.tokens ++ _) = _
      rw [readValue_tokens, finish_behind]
      rfl
  rw [readAll?, hRead]
  exact mapM_toRaw records

end Consul.Record

namespace ConsulClient

open Consul

/-- An agent that answers with a written listing lists its records. -/
theorem lists_of_answered {client : ConsulClient} {agent : Agent} {path : String}
    {records : List Record}
    (h : (client.list path).Answered agent ⟨200, Record.writeAll records⟩) :
    client.Lists agent path records :=
  ⟨_, h, rfl, Record.readAll?_write records⟩

end ConsulClient

end ConfigStore
