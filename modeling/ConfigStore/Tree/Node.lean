import ConfigStore.Change
import ConfigStore.NameMap

/-!
# Nodes

A node is a leaf with a value, or a branch with named children in name order.

* `Node.get?` follows a path, `Node.assign` sets the leaf at the end of one in place, and
  `Node.put` does so for those who have no use for a node that was left half way.
* `Node.Ordered` says that the children of every branch are in name order. Assigning keeps it
  (`Node.ordered_assign`), and so does following a path (`Node.ordered_of_get?`).
* An `Obstacle` is the reason why a leaf cannot be put.
-/

namespace ConfigStore

inductive Node where
  | leaf (value : String)
  | branch (children : List (String × Node))
deriving Repr, Inhabited

namespace Node

/-! ## Equality -/

mutual

protected def decEq : (a b : Node) → Decidable (a = b)
  | leaf v, leaf w => decidable_of_iff (v = w) (by simp)
  | leaf _, branch _ => isFalse (by simp)
  | branch _, leaf _ => isFalse (by simp)
  | branch c, branch d =>
    match Node.decEqChildren c d with
    | isTrue h => isTrue (by simp [h])
    | isFalse h => isFalse (by simp [h])

protected def decEqChildren : (a b : List (String × Node)) → Decidable (a = b)
  | [], [] => isTrue rfl
  | [], _ :: _ => isFalse (by simp)
  | _ :: _, [] => isFalse (by simp)
  | (m, a) :: as, (n, b) :: bs =>
    if hName : m = n then
      match Node.decEq a b, Node.decEqChildren as bs with
      | isTrue hNode, isTrue hRest => isTrue (by simp [hName, hNode, hRest])
      | isFalse hNode, _ => isFalse (by simp [hNode])
      | _, isFalse hRest => isFalse (by simp [hRest])
    else isFalse (by simp [hName])

end

instance : DecidableEq Node := Node.decEq

/-! ## Reading -/

/-- A branch without children. -/
def empty : Node := branch []

def isBranch : Node → Bool
  | leaf _ => false
  | branch _ => true

/-- The value of a leaf. -/
def value? : Node → Option String
  | leaf value => some value
  | branch _ => none

/-- The children of a branch; a leaf has none. -/
def children : Node → List (String × Node)
  | leaf _ => []
  | branch children => children

def child? (node : Node) (name : String) : Option Node :=
  node.children.lookup name

/-- The node reached by following a path down from `node`. -/
def get? : List String → Node → Option Node
  | [], node => some node
  | name :: rest, node => (node.child? name).bind (get? rest)

mutual

/-- The number of leaves at or below a node. -/
def leafCount : Node → Nat
  | leaf _ => 1
  | branch children => leafCountAmong children

def leafCountAmong : List (String × Node) → Nat
  | [] => 0
  | (_, node) :: rest => leafCount node + leafCountAmong rest

end

/-! ## Writing -/

/-- Why no leaf can be put at a path. -/
inductive Obstacle where
  | emptyPath
  /-- A leaf stands at a path that should lead on. -/
  | leafAt (path : List String)
  /-- The path ends on a branch. -/
  | branchAt (path : List String)
deriving DecidableEq, Repr

/-- The obstacle as seen from the parent of the node that met it. -/
def Obstacle.under (name : String) : Obstacle → Obstacle
  | emptyPath => emptyPath
  | leafAt path => leafAt (name :: path)
  | branchAt path => branchAt (name :: path)

/-- A chain of branches with one child each, and `node` at its end. -/
def chain : List String → Node → Node
  | [], node => node
  | name :: rest, node => branch [(name, chain rest node)]

/-- What is made where a node is missing: a branch where the path leads on. -/
def fresh (value : String) : List String → Node
  | [] => leaf value
  | _ :: _ => empty

/-- Follow a path, making what is missing, and give the leaf at its end this value. The node is
changed on the way, so that an obstacle finds it as it is by then. -/
def descend (value : String) : List String → Node → Change Obstacle Node
  | [], leaf _ => ⟨.ok (), leaf value⟩
  | [], branch children => ⟨.error (.branchAt []), branch children⟩
  | _ :: _, leaf old => ⟨.error (.leafAt []), leaf old⟩
  | name :: rest, branch children =>
    let below := descend value rest ((children.lookup name).getD (fresh value rest))
    ⟨below.outcome.mapError (·.under name), branch (Entries.insert name below.state children)⟩

/-- Set the leaf at a path in place. -/
def assign (node : Node) (path : List String) (value : String) : Change Obstacle Node :=
  if path = [] then ⟨.error .emptyPath, node⟩ else descend value path node

/-- The node after setting the leaf at a path. -/
def put (node : Node) (path : List String) (value : String) : Except Obstacle Node :=
  (node.assign path value).committed

/-! ## Order of names -/

/-- The children of every branch are in name order. -/
inductive Ordered : Node → Prop
  | leaf (value : String) : Ordered (.leaf value)
  | branch {children : List (String × Node)} (sorted : Entries.Sorted children)
      (each : ∀ child ∈ children, Ordered child.2) : Ordered (.branch children)

theorem ordered_empty : Ordered empty :=
  .branch List.Pairwise.nil (by simp)

theorem Ordered.sorted {children : List (String × Node)} (h : Ordered (.branch children)) :
    Entries.Sorted children := by
  cases h; assumption

theorem Ordered.each {children : List (String × Node)} (h : Ordered (.branch children)) :
    ∀ child ∈ children, Ordered child.2 := by
  cases h; assumption

theorem Ordered.lookup {children : List (String × Node)} (h : Ordered (.branch children))
    {name : String} {child : Node} (hChild : children.lookup name = some child) :
    Ordered child :=
  h.each _ (Entries.mem_of_lookup_eq_some hChild)

theorem Ordered.insert {children : List (String × Node)} (h : Ordered (.branch children))
    {child : Node} (hChild : Ordered child) (name : String) :
    Ordered (.branch (Entries.insert name child children)) := by
  refine .branch (Entries.sorted_insert h.sorted) fun entry hEntry => ?_
  rcases Entries.mem_insert hEntry with rfl | hEntry
  · exact hChild
  · exact h.each entry hEntry

theorem ordered_chain {node : Node} (h : Ordered node) (path : List String) :
    Ordered (chain path node) := by
  induction path with
  | nil => exact h
  | cons name rest ih => exact .branch (List.pairwise_singleton _ _) (by simpa using ih)

theorem ordered_of_get? {node found : Node} {path : List String} (h : Ordered node)
    (hFound : get? path node = some found) : Ordered found := by
  induction path generalizing node with
  | nil => cases hFound; exact h
  | cons name rest ih =>
    obtain ⟨child, hChild, hRest⟩ := Option.bind_eq_some_iff.mp hFound
    cases node with
    | leaf value => simp [child?, children] at hChild
    | branch children => exact ih (h.lookup hChild) hRest

theorem ordered_fresh (value : String) (path : List String) : Ordered (fresh value path) := by
  cases path with
  | nil => exact .leaf value
  | cons name rest => exact ordered_empty

theorem ordered_descend {node : Node} (h : Ordered node) (value : String) (path : List String) :
    Ordered (descend value path node).state := by
  induction path generalizing node with
  | nil =>
    cases node with
    | leaf old => exact .leaf value
    | branch children => exact h
  | cons name rest ih =>
    cases node with
    | leaf old => exact h
    | branch children =>
      refine h.insert (ih ?_) name
      cases hChild : children.lookup name with
      | none => exact ordered_fresh value rest
      | some child => exact h.lookup hChild

/-- Names stay in order, whether or not the leaf is set. -/
theorem ordered_assign {node : Node} (h : Ordered node) (path : List String) (value : String) :
    Ordered (node.assign path value).state := by
  rw [assign]
  split
  · exact h
  · exact ordered_descend h value path

/-- A branch at the top stays one. -/
theorem isBranch_assign (node : Node) (path : List String) (value : String) :
    (node.assign path value).state.isBranch = node.isBranch := by
  cases path with
  | nil => rfl
  | cons name rest => cases node <;> rfl

end Node

end ConfigStore
