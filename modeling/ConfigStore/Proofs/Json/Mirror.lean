import ConfigStore.Proofs.Json.Assignment
import ConfigStore.Proofs.Tree.Leaves
import ConfigStore.Proofs.Tree.Restriction
import ConfigStore.Tree.Document

/-!
# Documents that mirror trees

What is done to a tree can be done to the document that it writes.

* `Node.get?_toJson`: the same paths are found in both.
* `Node.overwrite_toJson`: the same strings are set in both, and the same obstacles are met.
* `Node.scalars_toJson`: the scalars of the document are the leaves of the tree.
* `Json.collect_toJson`: what is collected from a place of the document is the part of the tree
  there.
-/

namespace ConfigStore

namespace Node

/-- A child and the member that it writes. -/
def memberOf (child : String × Node) : String × Json := (child.1, child.2.toJson)

theorem membersOf_eq_map (children : List (String × Node)) :
    membersOf children = children.map memberOf := by
  induction children with
  | nil => rw [membersOf, List.map_nil]
  | cons first rest ih => rw [membersOf, ih, List.map_cons, memberOf]

theorem toJson_branch (children : List (String × Node)) :
    (branch children).toJson = .object (children.map memberOf) := by
  rw [toJson, membersOf_eq_map]

@[simp] theorem toJson_leaf (value : String) : (leaf value).toJson = .string value := by
  rw [toJson]

theorem lookup_memberOf (children : List (String × Node)) (name : String) :
    (children.map memberOf).lookup name = (children.lookup name).map toJson := by
  induction children with
  | nil => rfl
  | cons first rest ih =>
    rw [List.map_cons, memberOf, List.lookup_cons, List.lookup_cons, ih]
    cases name == first.1 <;> rfl

theorem insert_memberOf (name : String) (child : Node) (children : List (String × Node)) :
    Entries.insert name child.toJson (children.map memberOf) =
      (Entries.insert name child children).map memberOf := by
  induction children with
  | nil => rfl
  | cons first rest ih =>
    rw [List.map_cons, memberOf, Entries.insert, Entries.insert]
    split
    · rfl
    · split
      · rfl
      · rw [ih]
        rfl

/-- The same paths are found in a node and in its document. -/
theorem get?_toJson (path : List String) (node : Node) :
    Json.get? path node.toJson = (node.get? path).map toJson := by
  induction path generalizing node with
  | nil => rw [Json.get?, get?_nil, Option.map_some]
  | cons name rest ih =>
    cases node with
    | leaf value => rw [toJson_leaf, Json.get?, get?_leaf_cons, Option.map_none] <;> simp
    | branch children =>
      rw [toJson_branch, Json.get?, lookup_memberOf, get?_branch_cons]
      cases children.lookup name with
      | none => rfl
      | some child => exact ih child

theorem scalarText?_toJson (node : Node) : node.toJson.scalarText? = node.value? := by
  cases node with
  | leaf value => rw [toJson_leaf]; rfl
  | branch children => rw [toJson_branch]; rfl

/-! ## Setting a string -/

/-- The obstacle that a document puts in the way where a node puts this one. -/
def Obstacle.toJson : Obstacle → Json.Obstacle
  | .emptyPath => .emptyPath
  | .leafAt path => .scalarAt path
  | .branchAt path => .containerAt path

theorem Obstacle.toJson_under (name : String) (obstacle : Obstacle) :
    (obstacle.under name).toJson = obstacle.toJson.under name := by
  cases obstacle <;> rfl

theorem overwrite_null (value : String) (path : List String) :
    Json.overwrite value path .null = .ok (chain path (leaf value)).toJson := by
  induction path with
  | nil => rw [Json.overwrite, chain, toJson_leaf] <;> simp
  | cons name rest ih =>
    rw [Json.overwrite, ih, chain, toJson_branch]
    rfl

/-- The same strings are set in a node and in its document, and the same obstacles are met. -/
theorem overwrite_toJson (value : String) (path : List String) (node : Node) :
    Json.overwrite value path node.toJson =
      ((overwrite value path node).map toJson).mapError Obstacle.toJson := by
  induction path generalizing node with
  | nil =>
    cases node with
    | leaf old =>
      rw [toJson_leaf, Json.overwrite, overwrite_leaf_nil, Except.ok_map, toJson_leaf] <;> simp
    | branch children =>
      rw [toJson_branch, Json.overwrite, overwrite_branch_nil]
      rfl
  | cons name rest ih =>
    cases node with
    | leaf old =>
      rw [toJson_leaf, Json.overwrite, overwrite_leaf_cons]
      rfl
    | branch children =>
      rw [toJson_branch, Json.overwrite, lookup_memberOf, overwrite_branch_cons]
      cases children.lookup name with
      | none =>
        rw [Option.map_none, Option.getD_none, overwrite_null]
        dsimp only [Except.ok_map, Except.ok_mapError]
        rw [toJson_branch, insert_memberOf]
      | some child =>
        rw [Option.map_some, Option.getD_some, ih]
        dsimp only
        cases overwrite value rest child with
        | ok changed =>
          dsimp only [Except.ok_map, Except.ok_mapError]
          rw [toJson_branch, insert_memberOf]
        | error obstacle =>
          dsimp only [Except.error_map, Except.error_mapError]
          rw [Obstacle.toJson_under]

/-- The same puts succeed, and the same fail. -/
theorem set_toJson (node : Node) (path : List String) (value : String) :
    node.toJson.set path value =
      ((node.put path value).map toJson).mapError Obstacle.toJson := by
  rw [Json.set_eq_overwrite, put_eq_overwrite]
  split
  · rfl
  · exact overwrite_toJson value path node

/-! ## Reading the scalars -/

theorem scalarsOfMembers_eq (members : List (String × Json)) :
    Json.scalarsOfMembers members =
      members.flatMap fun member => member.2.scalars.map (leafUnder member.1) := by
  induction members with
  | nil => rw [Json.scalarsOfMembers, List.flatMap_nil]
  | cons first rest ih =>
    rw [Json.scalarsOfMembers, ih, List.flatMap_cons]
    rfl

/-- The scalars of a document are the leaves of the node that it mirrors. -/
theorem scalars_toJson (node : Node) : node.toJson.scalars = node.leaves := by
  induction node using inductionOn with
  | leaf value => rw [toJson_leaf, Json.scalars, leaves_leaf]
  | branch children ih =>
    rw [toJson_branch, Json.scalars, scalarsOfMembers_eq, leaves_branch, List.flatMap_map]
    apply List.flatMap_congr
    intro child hChild
    rw [memberOf, ih child hChild]

/-- What is collected from the document of a node is the tree with the values of the node, each
under `above` and its own path. -/
theorem collect_toJson {node : Node} (hOrdered : node.Ordered) (above : List String) {tree : Tree}
    (hFilled : tree.root.Filled)
    (h : ∀ path value, tree.root.valueAt? path = some value ↔
      path ≠ [] ∧ ∃ rest, path = above ++ rest ∧ node.valueAt? rest = some value) :
    node.toJson.collect above tree.separator = .ok tree := by
  rw [Json.collect, scalars_toJson]
  apply Tree.insertAll_empty hFilled
  intro path value
  rw [h, List.mem_filter, List.mem_map, and_comm, decide_eq_true_iff]
  apply and_congr_left
  intro _
  constructor
  · rintro ⟨rest, rfl, hValue⟩
    exact ⟨(rest, value), (mem_leaves_iff hOrdered).mpr hValue, rfl⟩
  · rintro ⟨⟨rest, found⟩, hLeaf, hEq⟩
    cases hEq
    exact ⟨rest, rfl, (mem_leaves_iff hOrdered).mp hLeaf⟩

end Node

end ConfigStore
