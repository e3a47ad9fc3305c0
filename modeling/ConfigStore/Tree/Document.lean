import ConfigStore.Json.Value
import ConfigStore.Tree.Basic

/-!
# Trees as documents

A node is written as a document of strings and objects, and read from such a document only.

* `Node.toJson` and `Node.ofJson?` go between nodes and documents.
* `Node.ofJson?_toJson`: what is written for an ordered node is read back.
-/

namespace ConfigStore

namespace Node

mutual

/-- A leaf as a string, a branch as an object. -/
def toJson : Node → Json
  | .leaf value => .string value
  | .branch children => .object (membersOf children)

def membersOf : List (String × Node) → List (String × Json)
  | [] => []
  | (name, node) :: rest => (name, toJson node) :: membersOf rest

end

mutual

/-- The node that a document writes, if it holds strings and objects only. -/
def ofJson? : Json → Option Node
  | .string value => some (.leaf value)
  | .object members => (childrenOf? members).map .branch
  | _ => none

def childrenOf? : List (String × Json) → Option (List (String × Node))
  | [] => some []
  | (name, value) :: rest =>
    match ofJson? value, childrenOf? rest with
    | some node, some children => some (Entries.insert name node children)
    | _, _ => none

end

mutual

theorem ordered_ofJson? : {value : Json} → {node : Node} → ofJson? value = some node →
    node.Ordered
  | .string text, node, h => by
    rw [ofJson?] at h
    cases h
    exact .leaf text
  | .object members, node, h => by
    rw [ofJson?] at h
    obtain ⟨children, hChildren, rfl⟩ := Option.map_eq_some_iff.mp h
    exact ordered_childrenOf? hChildren
  | .null, node, h => by simp [ofJson?] at h
  | .bool _, node, h => by simp [ofJson?] at h
  | .number _, node, h => by simp [ofJson?] at h
  | .array _, node, h => by simp [ofJson?] at h

theorem ordered_childrenOf? : {members : List (String × Json)} →
    {children : List (String × Node)} → childrenOf? members = some children →
    (branch children).Ordered
  | [], children, h => by
    rw [childrenOf?] at h
    cases h
    exact ordered_empty
  | (name, value) :: rest, children, h => by
    rw [childrenOf?] at h
    split at h
    next node others hNode hOthers =>
      cases h
      exact (ordered_childrenOf? hOthers).insert (ordered_ofJson? hNode) name
    · cases h

end

/-- An entry in front of larger ones stays in front. -/
theorem insert_of_forall_lt {α : Type} {name : String} {value : α} {entries : Entries α}
    (h : ∀ entry ∈ entries, name < entry.1) :
    Entries.insert name value entries = (name, value) :: entries := by
  cases entries with
  | nil => rfl
  | cons first rest => rw [Entries.insert, if_pos (h first List.mem_cons_self)]

mutual

theorem ofJson?_toJson : {node : Node} → node.Ordered → ofJson? node.toJson = some node
  | .leaf value, _ => by rw [toJson, ofJson?]
  | .branch children, h => by rw [toJson, ofJson?, childrenOf?_membersOf h, Option.map_some]

theorem childrenOf?_membersOf : {children : List (String × Node)} →
    (branch children).Ordered → childrenOf? (membersOf children) = some children
  | [], _ => by rw [membersOf, childrenOf?]
  | (name, node) :: rest, h => by
    have hSorted := List.pairwise_cons.mp h.sorted
    have hRest : (branch rest).Ordered :=
      .branch hSorted.2 fun child hChild => h.each child (List.mem_cons_of_mem _ hChild)
    rw [membersOf, childrenOf?, ofJson?_toJson (h.each _ List.mem_cons_self),
      childrenOf?_membersOf hRest]
    exact congrArg some (insert_of_forall_lt hSorted.1)

end

end Node

/-- The tree whose root a document writes, where nothing stands for a document that writes no
node. -/
def Tree.ofJson? (document : Json) (separator : Char) : Option (Except Error Tree) :=
  match h : Node.ofJson? document with
  | some root => some (Tree.ofRoot root (Node.ordered_ofJson? h) separator)
  | none => none

end ConfigStore
