import ConfigStore.Proofs.Entries
import ConfigStore.Tree.Basic
import Mathlib.Data.List.Infix

/-!
# The values of a node

A node seen as a function from paths to values. Two paths with values never lead on to each
other, and a node in which no branch below the top is empty is determined by its values.

* `Node.valueAt?` is the value at a path.
* `Node.get?_chain_append`, `Node.get?_chain_of_apart`: where the paths of a chain lead.
* `Node.Filled`: no branch below a node is without children.
* `Node.eq_of_valueAt?_eq`: filled nodes with the same values are the same.
-/

namespace ConfigStore

/-- Of two different paths, one leads on to the other. -/
def Path.Clashes (path other : List String) : Prop :=
  path ≠ other ∧ (path <+: other ∨ other <+: path)

theorem Path.Clashes.symm {path other : List String} (h : Clashes path other) :
    Clashes other path :=
  ⟨h.1.symm, h.2.symm⟩

namespace Node

/-- A property that goes from the children of a branch to the branch holds of every node. -/
theorem inductionOn {motive : Node → Prop} (node : Node) (leaf : ∀ value, motive (.leaf value))
    (branch : ∀ children, (∀ child ∈ children, motive child.2) → motive (.branch children)) :
    motive node := by
  refine @Node.rec motive (fun children => ∀ child ∈ children, motive child.2)
    (fun child => motive child.2) leaf branch ?_ ?_ ?_ node
  · simp
  · intro first rest hFirst hRest child hChild
    rcases List.mem_cons.mp hChild with rfl | hChild
    · exact hFirst
    · exact hRest child hChild
  · intro name child hChild
    exact hChild

/-! ## Following a path -/

@[simp] theorem get?_nil (node : Node) : node.get? [] = some node := rfl

@[simp] theorem get?_leaf_cons (value name : String) (rest : List String) :
    (leaf value).get? (name :: rest) = none := rfl

@[simp] theorem get?_branch_cons (children : List (String × Node)) (name : String)
    (rest : List String) :
    (branch children).get? (name :: rest) = (children.lookup name).bind (get? rest) := rfl

theorem get?_append (node : Node) (path rest : List String) :
    node.get? (path ++ rest) = (node.get? path).bind (get? rest) := by
  induction path generalizing node with
  | nil => rfl
  | cons name path ih =>
    cases node with
    | leaf value => rfl
    | branch children =>
      rw [List.cons_append, get?_branch_cons, get?_branch_cons]
      cases children.lookup name with
      | none => rfl
      | some child => exact ih child

/-- The value of the leaf at a path. -/
def valueAt? (node : Node) (path : List String) : Option String :=
  (node.get? path).bind value?

@[simp] theorem valueAt?_leaf_nil (value : String) : (leaf value).valueAt? [] = some value := rfl

@[simp] theorem valueAt?_leaf_cons (value name : String) (rest : List String) :
    (leaf value).valueAt? (name :: rest) = none := rfl

@[simp] theorem valueAt?_branch_nil (children : List (String × Node)) :
    (branch children).valueAt? [] = none := rfl

@[simp] theorem valueAt?_branch_cons (children : List (String × Node)) (name : String)
    (rest : List String) :
    (branch children).valueAt? (name :: rest) =
      (children.lookup name).bind fun child => child.valueAt? rest := by
  rw [valueAt?, get?_branch_cons]
  cases children.lookup name <;> rfl

theorem valueAt?_append (node : Node) (path rest : List String) :
    node.valueAt? (path ++ rest) = (node.get? path).bind fun found => found.valueAt? rest := by
  rw [valueAt?, get?_append]
  cases node.get? path <;> rfl

theorem valueAt?_eq_some_iff {node : Node} {path : List String} {value : String} :
    node.valueAt? path = some value ↔ node.get? path = some (leaf value) := by
  rw [valueAt?]
  cases node.get? path with
  | none => simp
  | some found => cases found <;> simp [value?]

/-- A path below a value has none. -/
theorem eq_nil_of_valueAt?_append {node : Node} {path rest : List String} {value below : String}
    (h : node.valueAt? path = some value) (hBelow : node.valueAt? (path ++ rest) = some below) :
    rest = [] := by
  rw [valueAt?_append, valueAt?_eq_some_iff.mp h] at hBelow
  cases rest with
  | nil => rfl
  | cons name rest => cases hBelow

/-- Paths with values do not clash. -/
theorem not_clashes {node : Node} {path other : List String} {value found : String}
    (h : node.valueAt? path = some value) (hOther : node.valueAt? other = some found) :
    ¬ Path.Clashes path other := by
  rintro ⟨hNe, ⟨rest, rfl⟩ | ⟨rest, rfl⟩⟩
  · exact hNe (by rw [eq_nil_of_valueAt?_append h hOther, List.append_nil])
  · exact hNe (by rw [eq_nil_of_valueAt?_append hOther h, List.append_nil])

/-! ## Chains -/

/-- A chain has the values of the node at its end. -/
theorem valueAt?_chain {path other : List String} {node : Node} {value : String} :
    (chain path node).valueAt? other = some value ↔
      ∃ rest, other = path ++ rest ∧ node.valueAt? rest = some value := by
  induction path generalizing other with
  | nil => simp [chain]
  | cons name path ih =>
    cases other with
    | nil => simp [chain]
    | cons first other =>
      by_cases hName : first = name
      · simp [chain, hName, ih]
      · simp [chain, hName, List.lookup_cons, beq_eq_false_iff_ne.mpr hName]

theorem chain_append (path rest : List String) (node : Node) :
    chain (path ++ rest) node = chain path (chain rest node) := by
  induction path with
  | nil => rfl
  | cons name path ih => rw [List.cons_append, chain, chain, ih]

/-- Behind a chain lies what the node at its end leads to. -/
theorem get?_chain_append (path rest : List String) (node : Node) :
    (chain path node).get? (path ++ rest) = node.get? rest := by
  induction path with
  | nil => rfl
  | cons name path ih =>
    rw [chain, List.cons_append, get?_branch_cons, List.lookup_cons, beq_self_eq_true]
    exact ih

/-- A chain leads nowhere but along its path. -/
theorem get?_chain_of_apart {path other : List String} (h : ¬ other <+: path)
    (hBelow : ¬ path <+: other) (node : Node) : (chain path node).get? other = none := by
  induction path generalizing other with
  | nil => exact absurd List.nil_prefix hBelow
  | cons name path ih =>
    cases other with
    | nil => exact absurd List.nil_prefix h
    | cons first other =>
      rw [chain, get?_branch_cons, List.lookup_cons, List.lookup_nil]
      by_cases hName : first = name
      · subst hName
        rw [List.cons_prefix_cons, and_iff_right rfl] at h hBelow
        rw [beq_self_eq_true]
        exact ih h hBelow
      · rw [beq_eq_false_iff_ne.mpr hName]
        rfl

theorem chain_ne_empty {node : Node} (h : node ≠ empty) (path : List String) :
    chain path node ≠ empty := by
  cases path with
  | nil => exact h
  | cons name rest => simp [chain, empty]

/-! ## Filled nodes -/

/-- No branch below the node is without children. The node itself may be one. -/
def Filled (node : Node) : Prop :=
  ∀ path, node.get? path = some empty → path = []

theorem filled_leaf (value : String) : (leaf value).Filled := by
  intro path h
  cases path with
  | nil => rfl
  | cons name rest => cases h

theorem filled_empty : empty.Filled := by
  intro path h
  cases path with
  | nil => rfl
  | cons name rest => cases h

theorem filled_branch_iff {children : List (String × Node)} :
    (branch children).Filled ↔
      ∀ name child, children.lookup name = some child → child ≠ empty ∧ child.Filled := by
  constructor
  · intro h name child hChild
    constructor
    · rintro rfl
      exact absurd (h [name] (by simp [hChild])) (by simp)
    · intro path hPath
      exact absurd (h (name :: path) (by simpa [hChild] using hPath)) (by simp)
  · intro h path hPath
    cases path with
    | nil => rfl
    | cons name rest =>
      obtain ⟨child, hChild, hRest⟩ := Option.bind_eq_some_iff.mp hPath
      obtain ⟨hNe, hFilled⟩ := h name child hChild
      have hNil : rest = [] := hFilled rest hRest
      rw [hNil, get?_nil] at hRest
      exact absurd (Option.some.inj hRest) hNe

theorem Filled.get? {node found : Node} (h : node.Filled) {path : List String}
    (hFound : node.get? path = some found) : found.Filled := by
  intro rest hRest
  have hAppend : node.get? (path ++ rest) = some empty := by rw [get?_append, hFound]; exact hRest
  exact (List.append_eq_nil_iff.mp (h _ hAppend)).2

theorem Filled.chain {node : Node} (h : node.Filled) (hNe : node ≠ empty) (path : List String) :
    (chain path node).Filled := by
  induction path with
  | nil => exact h
  | cons name path ih =>
    apply filled_branch_iff.mpr
    intro first child hChild
    have hMem := Entries.mem_of_lookup_eq_some hChild
    rw [List.mem_singleton, Prod.mk.injEq] at hMem
    exact hMem.2 ▸ ⟨chain_ne_empty hNe path, ih⟩

theorem Filled.insert {children : List (String × Node)} (h : (branch children).Filled)
    {child : Node} (hNe : child ≠ empty) (hChild : child.Filled) (name : String) :
    (branch (Entries.insert name child children)).Filled := by
  apply filled_branch_iff.mpr
  intro other found hFound
  by_cases hName : other = name
  · rw [hName, Entries.lookup_insert_self] at hFound
    cases hFound
    exact ⟨hNe, hChild⟩
  · rw [Entries.lookup_insert_of_ne hName] at hFound
    exact filled_branch_iff.mp h other found hFound

/-- A filled node has a value unless it is the branch without children. -/
theorem Filled.exists_value {node : Node} (h : node.Filled) (hNe : node ≠ empty) :
    ∃ path value, node.valueAt? path = some value := by
  induction node using inductionOn with
  | leaf value => exact ⟨[], value, rfl⟩
  | branch children ih =>
    cases children with
    | nil => exact absurd rfl hNe
    | cons first rest =>
      have hFirst : List.lookup first.1 (first :: rest) = some first.2 := by
        rw [List.lookup_cons, beq_self_eq_true]
      obtain ⟨hFirstNe, hFirstFilled⟩ := filled_branch_iff.mp h _ _ hFirst
      obtain ⟨path, value, hValue⟩ := ih first List.mem_cons_self hFirstFilled hFirstNe
      exact ⟨first.1 :: path, value, by rw [valueAt?_branch_cons, hFirst]; exact hValue⟩

/-! ## Nodes with the same values -/

theorem isNone_valueAt?_nil (node : Node) : (node.valueAt? []).isNone = node.isBranch := by
  cases node <;> rfl

/-- Where the values of one branch are found in another, so are the names of its children. -/
theorem exists_lookup_of_valueAt?_eq {children others : List (String × Node)}
    (hFilled : (branch children).Filled)
    (h : ∀ path, (branch children).valueAt? path = (branch others).valueAt? path)
    {name : String} {child : Node} (hChild : children.lookup name = some child) :
    ∃ other, others.lookup name = some other := by
  obtain ⟨hNe, hBelow⟩ := filled_branch_iff.mp hFilled name child hChild
  obtain ⟨path, value, hValue⟩ := hBelow.exists_value hNe
  have hOther := h (name :: path)
  rw [valueAt?_branch_cons, hChild, Option.bind_some, hValue, valueAt?_branch_cons] at hOther
  obtain ⟨other, hOther, -⟩ := Option.bind_eq_some_iff.mp hOther.symm
  exact ⟨other, hOther⟩

/-- Filled nodes with the same values are the same. -/
theorem eq_of_valueAt?_eq {a b : Node} (hOrdered : a.Ordered) (hOrdered' : b.Ordered)
    (hFilled : a.Filled) (hFilled' : b.Filled)
    (h : ∀ path, a.valueAt? path = b.valueAt? path) : a = b := by
  have hKind : a.isBranch = b.isBranch := by
    rw [← isNone_valueAt?_nil, ← isNone_valueAt?_nil, h]
  induction a using inductionOn generalizing b with
  | leaf value =>
    cases b with
    | branch children => cases hKind
    | leaf other => exact congrArg leaf (Option.some.inj (h []))
  | branch children ih =>
    cases b with
    | leaf other => cases hKind
    | branch others =>
      refine congrArg branch (Entries.eq_of_lookup_eq hOrdered.sorted hOrdered'.sorted ?_)
      intro name
      cases hChild : children.lookup name with
      | none =>
        cases hOther : others.lookup name with
        | none => rfl
        | some other =>
          obtain ⟨child, hNot⟩ :=
            exists_lookup_of_valueAt?_eq hFilled' (fun path => (h path).symm) hOther
          rw [hChild] at hNot
          cases hNot
      | some child =>
        obtain ⟨other, hOther⟩ := exists_lookup_of_valueAt?_eq hFilled h hChild
        have hBelow : ∀ path, child.valueAt? path = other.valueAt? path := by
          intro path
          simpa [hChild, hOther] using h (name :: path)
        have hEq : child = other :=
          ih _ (Entries.mem_of_lookup_eq_some hChild) (hOrdered.lookup hChild)
            (hOrdered'.lookup hOther)
            (filled_branch_iff.mp hFilled name child hChild).2
            (filled_branch_iff.mp hFilled' name other hOther).2 hBelow
            (by rw [← isNone_valueAt?_nil, ← isNone_valueAt?_nil, hBelow])
        rw [hOther, hEq]

end Node

end ConfigStore
