import ConfigStore.Proofs.Consul.Listing

/-!
# What is read of a listing

* `ConsulClient.readListing_selected`: only the records at and below the path make a difference.
* `ConsulClient.readListing_of_holds`, `ConsulClient.readListing_of_not_holds`: what is read of the
  records at and below the path, and when it cannot be read.
* `ConsulClient.recursive_reads`: the tree and the map that are read.
-/

namespace ConfigStore

namespace Consul

/-- The agent answers the request of an exchange. -/
def Exchange.Answered {α : Type} (exchange : Exchange α) (agent : Agent) (response : Response) :
    Prop :=
  ∃ request, exchange.request? = some request ∧ agent request = some response

/-- What an exchange comes to that is answered. -/
theorem Exchange.run_send {α : Type} {asked : Request} {read : Response → Except Error α}
    {agent : Agent} {response : Response} (h : (send asked read).Answered agent response) :
    (send asked read).run agent = read response := by
  obtain ⟨request, hRequest, hResponse⟩ := h
  unfold send at hRequest ⊢
  split at hRequest
  · cases hRequest
  · cases hRequest
    rw [run, hResponse]

theorem Response.isNotFound_eq_false (response : Response) (h : response.isSuccess = true) :
    response.isNotFound = false := by
  rw [isSuccess, Bool.and_eq_true, decide_eq_true_iff, decide_eq_true_iff] at h
  rw [isNotFound, decide_eq_false_iff_not]
  omega

end Consul

namespace ConsulClient

open Consul

variable {client : ConsulClient} {path : String} {records : List Record}

/-! ## Reading records -/

/-- The records of a listing at and below a path. -/
def selected (client : ConsulClient) (path : String) (records : List Record) : List Record :=
  records.filter fun record => record.At (client.scope.resolve path)

theorem at_of_mem_selected {record : Record} (h : record ∈ client.selected path records) :
    record.At (client.scope.resolve path) :=
  of_decide_eq_true (List.mem_filter.mp h).2

theorem selected_append_cons {record : Record} (h : record.At (client.scope.resolve path))
    (before after : List Record) :
    client.selected path (before ++ record :: after) =
      client.selected path before ++ record :: client.selected path after := by
  have hKept := List.filter_cons_of_pos (l := after)
    (p := fun record => decide (record.At (client.scope.resolve path))) (decide_eq_true h)
  rw [selected, List.filter_append, hKept]
  rfl

/-- No record makes a difference that does not lie at or below the path. -/
theorem readListing_selected (client : ConsulClient) (path : String) (records : List Record) :
    client.readListing path (client.selected path records) = client.readListing path records := by
  rw [readListing, readListing, selected, List.filterMap_filter]
  congr 2
  funext record
  split
  · rfl
  next hNot =>
    exact (Record.select?_of_not_at fun hAt => hNot (decide_eq_true hAt)).symm

/-- What is read of the records at and below a path, if all of them hold texts. -/
theorem readListing_of_holds {text : Record → String}
    (h : ∀ record ∈ client.selected path records, record.Holds (text record)) :
    client.readListing path records =
      .ok ((client.selected path records).map fun record =>
        (record.relative client.scope, text record)) := by
  rw [← readListing_selected, readListing]
  have hAt : ∀ record ∈ client.selected path records, record.At (client.scope.resolve path) :=
    fun record => at_of_mem_selected
  generalize client.selected path records = kept at h hAt ⊢
  induction kept with
  | nil => rfl
  | cons record rest ih =>
    rw [List.forall_mem_cons] at h hAt
    obtain ⟨encoded, hValue, hSelect⟩ := hAt.1.select?_eq
    obtain ⟨encoded', hValue', hText⟩ := h.1
    cases hValue.symm.trans hValue'
    have hDecode : Selected.decode ⟨record.relative client.scope, record.key, encoded⟩ =
        .ok (record.relative client.scope, text record) :=
      Selected.decode_eq_ok_iff.mpr ⟨rfl, hText⟩
    rw [List.filterMap_cons_some hSelect, List.mapM_cons, hDecode, ih h.2 hAt.2]
    rfl

/-- Reading fails if one of the records at and below the path holds no text. -/
theorem readListing_of_not_holds {record : Record}
    (hRecord : record ∈ client.selected path records) (h : ∀ text, ¬ record.Holds text) :
    ∃ message, client.readListing path records = .error (.backend message) := by
  obtain ⟨encoded, hValue, hSelect⟩ := (at_of_mem_selected hRecord).select?_eq
  rw [readListing]
  rcases Except.mapM_cases Selected.decode (records.filterMap
      (Record.select? client.scope (client.scope.resolve path))) with
    ⟨values, -, hMap⟩ | ⟨_, -, error, hError, hRead⟩
  · have hSelected : Selected.mk (record.relative client.scope) record.key encoded ∈
        records.filterMap (Record.select? client.scope (client.scope.resolve path)) :=
      List.mem_filterMap.mpr ⟨record, List.mem_of_mem_filter hRecord, hSelect⟩
    have hOk := List.mem_map_of_mem (f := Selected.decode) hSelected
    rw [hMap] at hOk
    obtain ⟨value, -, hValue'⟩ := List.mem_map.mp hOk
    exact absurd ⟨encoded, hValue, (Selected.decode_eq_ok_iff.mp hValue'.symm).2⟩ (h value.2)
  · obtain ⟨message, rfl⟩ := Selected.decode_eq_error hError
    exact ⟨message, hRead⟩

/-! ## Reading trees and maps -/

/-- The agent answers with a listing of these records when it is asked for what lies at and below a
path. -/
def Lists (client : ConsulClient) (agent : Agent) (path : String) (records : List Record) : Prop :=
  ∃ response, (client.list path).Answered agent response ∧ response.isSuccess = true ∧
    Record.readAll? response.body = some records

theorem run_list {agent : Agent} (h : client.Lists agent path records) :
    (client.list path).run agent = client.readListing path records := by
  obtain ⟨response, hAnswered, hSuccess, hRecords⟩ := h
  rw [list] at hAnswered ⊢
  rw [Exchange.run_send hAnswered, response.isNotFound_eq_false hSuccess, hSuccess, hRecords]
  rfl

/-- Of the records with a property the last one holds a text if and only if it is the text of the
record that is found first from the end. -/
theorem lastHolds_iff {text : Record → String} (h : ∀ record ∈ records, record.Holds (text record))
    {P : Record → Prop} [DecidablePred P] {value : String} :
    Record.LastHolds records P value ↔
      (records.reverse.find? fun record => P record).map text = some value := by
  rw [Option.map_eq_some_iff]
  simp only [List.find?_eq_some_iff_append, decide_eq_true_iff, Bool.not_eq_true',
    decide_eq_false_iff_not]
  constructor
  · rintro ⟨before, record, after, rfl, hRecord, hHolds, hLast⟩
    refine ⟨record, ⟨hRecord, after.reverse, before.reverse, by simp, ?_⟩, ?_⟩
    · simpa using hLast
    · exact (h record (by simp)).unique hHolds
  · rintro ⟨record, ⟨hRecord, after, before, hRecords, hLast⟩, rfl⟩
    rw [List.reverse_eq_iff] at hRecords
    refine ⟨before.reverse, record, after.reverse, by simpa using hRecords, hRecord, ?_, ?_⟩
    · exact h record (by rw [hRecords]; simp)
    · simpa using hLast

/-- Of the values with a path of their own and with a property, the last one is what the last record
holds that has such a path. -/
theorem find?_placed_eq_some_iff {text : Record → String}
    (h : ∀ record ∈ records, record.Holds (text record)) (P : List String → Prop)
    [DecidablePred P] {value : String} :
    ((placed (records.map fun record => (record.relative client.scope, text record))).reverse.find?
        fun value => P value.1).map Prod.snd = some value ↔
      Record.LastHolds records
        (fun record => record.relative client.scope ≠ [] ∧ P (record.relative client.scope))
        value := by
  rw [lastHolds_iff h, placed, ← List.filter_reverse, List.find?_filter, ← List.map_reverse,
    List.find?_map, Option.map_map]
  simp only [Bool.decide_and, Bool.decide_eq_true]
  exact Iff.rfl

/-- The tree of a listing can be made unless one of the values stands above another one. -/
theorem exists_treeOf_iff {separator : Char} {text : Record → String} :
    (∃ tree, treeOf separator
        (records.map fun record => (record.relative client.scope, text record)) = .ok tree) ↔
      ¬ ∃ record ∈ records, ∃ other ∈ records, record.Above client.scope other := by
  have hPaths : ∀ value ∈ placed (records.map fun record =>
      (record.relative client.scope, text record)), value.1 ≠ [] :=
    fun value hValue => of_decide_eq_true (List.mem_filter.mp hValue).2
  have hPlaced : ∀ record ∈ records, record.relative client.scope ≠ [] →
      (record.relative client.scope, text record) ∈
        placed (records.map fun record => (record.relative client.scope, text record)) :=
    fun record hRecord hPath => List.mem_filter.mpr
      ⟨List.mem_map.mpr ⟨record, hRecord, rfl⟩, decide_eq_true hPath⟩
  refine (Tree.exists_insertAll_empty_iff hPaths).trans ⟨?_, ?_⟩
  · rintro hApart ⟨record, hRecord, other, hOther, hPath, hPrefix, hNe⟩
    have hOtherPath : other.relative client.scope ≠ [] := by
      rintro hNil
      exact hPath (List.prefix_nil.mp (hNil ▸ hPrefix))
    exact hApart _ (hPlaced record hRecord hPath) _ (hPlaced other hOther hOtherPath)
      ⟨hNe, .inl hPrefix⟩
  · intro hNone first hFirst second hSecond hClash
    have hFirstPath := hPaths first hFirst
    have hSecondPath := hPaths second hSecond
    obtain ⟨record, hRecord, rfl⟩ := List.mem_map.mp (List.mem_filter.mp hFirst).1
    obtain ⟨other, hOther, rfl⟩ := List.mem_map.mp (List.mem_filter.mp hSecond).1
    obtain ⟨hNe, hPrefix | hPrefix⟩ := hClash
    · exact hNone ⟨record, hRecord, other, hOther, hFirstPath, hPrefix, hNe⟩
    · exact hNone ⟨other, hOther, record, hRecord, hSecondPath, hPrefix, hNe.symm⟩

theorem subtree_eq {agent : Agent} (h : client.Lists agent path records) :
    client.subtree agent path =
      (client.readListing path records).bind (treeOf client.scope.separator) := by
  rw [subtree, run_list h]
  rfl

theorem flatten_eq {agent : Agent} (h : client.Lists agent path records) :
    client.flatten agent path =
      (client.readListing path records).map (mapOf client.scope.separator) := by
  rw [flatten, run_list h]
  rfl

/-- If all records at and below a path hold texts, only a conflict can keep the tree from being
made. -/
theorem exists_subtree_iff {agent : Agent} (h : client.Lists agent path records)
    (hTexts : ∀ record ∈ client.selected path records, ∃ text, record.Holds text) :
    ((∃ tree, client.subtree agent path = .ok tree) ↔
        ¬ ∃ record ∈ client.selected path records, ∃ other ∈ client.selected path records,
          record.Above client.scope other) ∧
      ∀ error, client.subtree agent path = .error error →
        ∃ place message, error = .pathConflict place message := by
  choose! text hText using hTexts
  rw [subtree_eq h, readListing_of_holds hText, Except.bind_ok]
  refine ⟨exists_treeOf_iff, fun error hError => ?_⟩
  exact Tree.insertAll_eq_pathConflict
    (fun value hValue => of_decide_eq_true (List.mem_filter.mp hValue).2) hError

/-- The leaves of the tree are the names of the records at and below a path, each with the text of
the last record that has them. -/
theorem mem_leaves_subtree {agent : Agent} (h : client.Lists agent path records)
    (hTexts : ∀ record ∈ client.selected path records, ∃ text, record.Holds text) {tree : Tree}
    (hTree : client.subtree agent path = .ok tree) :
    tree.separator = client.scope.separator ∧ tree.root.Filled ∧
      (∀ names text, (names, text) ∈ tree.root.leaves ↔
        Record.LastHolds (client.selected path records) (fun record =>
          record.relative client.scope ≠ [] ∧ record.relative client.scope = names) text) ∧
      ∀ leaf ∈ tree.root.leaves, client.scope.split path <+: leaf.1 := by
  choose! text hText using hTexts
  rw [subtree_eq h, readListing_of_holds hText, Except.bind_ok] at hTree
  refine ⟨Tree.separator_insertAll hTree, Tree.filled_insertAll Node.filled_empty hTree,
    fun names value => ?_, fun leaf hLeaf => ?_⟩
  · rw [mem_leaves_treeOf hTree, Entries.lookup_eq_find?]
    exact find?_placed_eq_some_iff hText (· = names)
  · obtain ⟨hMem, -⟩ := List.mem_filter.mp (mem_placed_of_mem_leaves hTree hLeaf)
    obtain ⟨record, hRecord, rfl⟩ := List.mem_map.mp hMem
    exact (at_of_mem_selected hRecord).prefix_relative

/-- If all records at and below a path hold texts, the map has for each key the text of the last
record with that key. -/
theorem flatten_of_holds {agent : Agent} (h : client.Lists agent path records)
    (hTexts : ∀ record ∈ client.selected path records, ∃ text, record.Holds text) :
    ∃ map, client.flatten agent path = .ok map ∧
      ∀ key text, map.get? key = some text ↔ Record.LastHolds (client.selected path records)
        (fun record => record.relative client.scope ≠ [] ∧
          Path.join client.scope.separator (record.relative client.scope) = key) text := by
  choose! text hText using hTexts
  refine ⟨_, by rw [flatten_eq h, readListing_of_holds hText, Except.ok_map], fun key value => ?_⟩
  rw [get?_mapOf, lastUnder]
  exact find?_placed_eq_some_iff hText (Path.join client.scope.separator · = key)

/-- What is read of a listing comes from the records at and below the path alone. If one of them
holds no text, nothing can be read. Otherwise the leaves of the tree are the names of these records
below the prefix, each with the text of the last record that has them, and there is a tree unless
some of these names are the beginning of others. The map holds the same texts by key. -/
theorem recursive_reads {agent : Agent} (h : client.Lists agent path records) :
    let scope := client.scope
    let selected := client.selected path records
    (∀ (other : Agent) (others : List Record), client.Lists other path others →
      client.selected path others = selected →
      client.subtree other path = client.subtree agent path ∧
        client.flatten other path = client.flatten agent path) ∧
    ((∃ record ∈ selected, ∀ text, ¬ record.Holds text) →
      (∃ message, client.subtree agent path = .error (.backend message)) ∧
        ∃ message, client.flatten agent path = .error (.backend message)) ∧
    ((∀ record ∈ selected, ∃ text, record.Holds text) →
      ((∃ tree, client.subtree agent path = .ok tree) ↔
        ¬ ∃ record ∈ selected, ∃ other ∈ selected, record.Above scope other) ∧
      ((∃ place message, client.subtree agent path = .error (.pathConflict place message)) ↔
        ∃ record ∈ selected, ∃ other ∈ selected, record.Above scope other) ∧
      (∀ tree, client.subtree agent path = .ok tree →
        tree.separator = scope.separator ∧ tree.root.Filled ∧
        (∀ names text, (names, text) ∈ tree.root.leaves ↔ Record.LastHolds selected
          (fun record => record.relative scope ≠ [] ∧ record.relative scope = names) text) ∧
        ∀ leaf ∈ tree.root.leaves, scope.split path <+: leaf.1) ∧
      ∃ map, client.flatten agent path = .ok map ∧
        ∀ key text, map.get? key = some text ↔ Record.LastHolds selected
          (fun record => record.relative scope ≠ [] ∧
            Path.join scope.separator (record.relative scope) = key) text) := by
  intro scope selected
  refine ⟨fun other others hOther hSame => ?_, ?_, fun hTexts => ?_⟩
  · rw [subtree_eq hOther, flatten_eq hOther, subtree_eq h, flatten_eq h,
      ← readListing_selected client path others, hSame, readListing_selected]
    exact ⟨rfl, rfl⟩
  · rintro ⟨record, hRecord, hNone⟩
    obtain ⟨message, hRead⟩ := readListing_of_not_holds hRecord hNone
    rw [subtree_eq h, flatten_eq h, hRead]
    exact ⟨⟨message, rfl⟩, message, rfl⟩
  · obtain ⟨hTree, hError⟩ := exists_subtree_iff h hTexts
    refine ⟨hTree, ?_, fun tree hMade => mem_leaves_subtree h hTexts hMade,
      flatten_of_holds h hTexts⟩
    rw [← not_iff_not, ← hTree]
    cases hMade : client.subtree agent path with
    | ok tree => simp
    | error error =>
      obtain ⟨place, message, rfl⟩ := hError error hMade
      simp

/-- A listing with a key that is listed twice, and with one whose text only begins like it. -/
def mixed : List Record :=
  [⟨"app/db/host", some "MQ=="⟩, ⟨"app/dbx", some "?"⟩, ⟨"app/db//host", some "Mg=="⟩]

def listingMixed : Agent := fun _ =>
  some ⟨200, Utf8.encode ("[\x7b\"Key\":\"app/db/host\",\"Value\":\"MQ==\"\x7d," ++
    "\x7b\"Key\":\"app/dbx\",\"Value\":\"?\"\x7d," ++
    "\x7b\"Key\":\"app/db//host\",\"Value\":\"Mg==\"\x7d]").toList⟩

/-- A client with a prefix. -/
def prefixed : ConsulClient := { dotted with scope := { root := ["app"] } }

/-- Of this listing the value is read that is listed last, although the other key has none. -/
theorem recursive_reads_mixed :
    prefixed.Lists listingMixed "db" mixed ∧
      ∃ tree, prefixed.subtree listingMixed "db" = .ok tree ∧
        (["db", "host"], "2") ∈ tree.root.leaves := by
  obtain ⟨request, hRequest⟩ : ∃ request, (prefixed.list "db").request? = some request :=
    Option.isSome_iff_exists.mp (by decide +kernel)
  have hLists : prefixed.Lists listingMixed "db" mixed :=
    ⟨_, ⟨request, hRequest, rfl⟩, rfl, by decide +kernel⟩
  have hSelected : prefixed.selected "db" mixed =
      [⟨"app/db/host", some "MQ=="⟩, ⟨"app/db//host", some "Mg=="⟩] := by decide +kernel
  have hNames : ∀ record ∈ prefixed.selected "db" mixed,
      record.relative prefixed.scope = ["db", "host"] := by decide +kernel
  have hFirst : Record.Holds ⟨"app/db/host", some "MQ=="⟩ "1" := ⟨_, rfl, by decide +kernel⟩
  have hSecond : Record.Holds ⟨"app/db//host", some "Mg=="⟩ "2" := ⟨_, rfl, by decide +kernel⟩
  have hTexts : ∀ record ∈ prefixed.selected "db" mixed, ∃ text, record.Holds text := by
    rw [hSelected]
    simpa using ⟨⟨_, hFirst⟩, _, hSecond⟩
  obtain ⟨-, -, hRead⟩ := recursive_reads hLists
  obtain ⟨hTree, -, hLeaves, -⟩ := hRead hTexts
  obtain ⟨tree, hMade⟩ := hTree.mpr (by
    rintro ⟨record, hRecord, other, hOther, -, -, hNe⟩
    exact hNe ((hNames record hRecord).trans (hNames other hOther).symm))
  refine ⟨hLists, tree, hMade, ((hLeaves tree hMade).2.2.1 _ _).mpr ?_⟩
  exact ⟨[_], _, [], hSelected, by decide +kernel, hSecond, by simp⟩

end ConsulClient

end ConfigStore
