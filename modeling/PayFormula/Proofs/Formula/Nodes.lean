import Mathlib
import PayFormula.Formula.Dependencies

/-!
# Nodes and What They Name

The list of nodes of a formula is the formula followed by the nodes of its parts, so a property of
nodes passes from a formula to its parts.  The dependencies hold one key for every variable and one
for every call that is keyed: the text of the literal that the call names, or the mark of a key that
only a run can tell.
-/

namespace PayFormula

namespace Formula

/-! ## Nodes -/

theorem walk_append (first second : List Formula) :
    walk (first ++ second) = walk first ++ walk second := by
  fun_induction walk first with
  | case1 => rfl
  | case2 formula pending ih => rw [List.cons_append, walk, ← List.append_assoc, ih, List.cons_append]

theorem nodes_eq (formula : Formula) : formula.nodes = formula :: walk formula.children := by
  rw [nodes, walk, List.append_nil]

theorem mem_walk_iff {node : Formula} {formulas : List Formula} :
    node ∈ walk formulas ↔ ∃ formula ∈ formulas, node ∈ formula.nodes := by
  induction formulas with
  | nil => simp [walk]
  | cons formula rest ih =>
    calc
      _ ↔ node ∈ formula.nodes ++ walk rest := by rw [nodes, ← walk_append, List.singleton_append]
      _ ↔ node ∈ formula.nodes ∨ ∃ formula ∈ rest, node ∈ formula.nodes := by
        rw [List.mem_append, ih]
      _ ↔ _ := by rw [List.exists_mem_cons_iff]

theorem self_mem_nodes (formula : Formula) : formula ∈ formula.nodes := by
  rw [nodes_eq]
  exact List.mem_cons_self

theorem nodes_subset_of_mem_children {part formula : Formula} (h : part ∈ formula.children) :
    part.nodes ⊆ formula.nodes := by
  intro node hnode
  rw [nodes_eq]
  exact List.mem_cons_of_mem _ (mem_walk_iff.2 ⟨part, h, hnode⟩)

/-- A node occurs in a formula that it is and in one that has a part in which it occurs. -/
inductive Occurs (node : Formula) : Formula → Prop where
  | self : Occurs node node
  | argument {name : String} {arguments : List Formula} {part : Formula}
    (hpart : part ∈ arguments) (h : Occurs node part) : Occurs node (call name arguments)
  | operand {operator : UnaryOperator} {part : Formula} (h : Occurs node part) :
    Occurs node (unary operator part)
  | left {operator : BinaryOperator} {left right : Formula} (h : Occurs node left) :
    Occurs node (binary operator left right)
  | right {operator : BinaryOperator} {left right : Formula} (h : Occurs node right) :
    Occurs node (binary operator left right)

theorem Occurs.of_mem_children {node part formula : Formula} (hpart : part ∈ formula.children)
    (h : node.Occurs part) : node.Occurs formula := by
  cases formula with
  | call name arguments => exact .argument hpart h
  | unary operator operand =>
    rw [children, List.mem_singleton] at hpart
    exact .operand (hpart ▸ h)
  | binary operator left right =>
    rw [children, List.mem_pair] at hpart
    rcases hpart with rfl | rfl
    · exact .left h
    · exact .right h
  | _ => exact absurd hpart List.not_mem_nil

theorem exists_occurs_of_mem_walk {node : Formula} {formulas : List Formula}
    (h : node ∈ walk formulas) : ∃ formula ∈ formulas, node.Occurs formula := by
  fun_induction walk formulas with
  | case1 => nomatch h
  | case2 formula pending ih =>
    rcases List.mem_cons.1 h with rfl | h
    · exact ⟨node, List.mem_cons_self, .self⟩
    · obtain ⟨part, hpart, hoccurs⟩ := ih h
      rcases List.mem_append.1 hpart with hchild | hpending
      · exact ⟨formula, List.mem_cons_self, hoccurs.of_mem_children hchild⟩
      · exact ⟨part, List.mem_cons_of_mem _ hpending, hoccurs⟩

/-- The nodes of a formula are what occurs in it, and nothing is passed over. -/
theorem mem_nodes_iff_occurs {node formula : Formula} :
    node ∈ formula.nodes ↔ node.Occurs formula := by
  constructor
  · intro h
    obtain ⟨_, hformula, hoccurs⟩ := exists_occurs_of_mem_walk h
    rwa [List.mem_singleton.1 hformula] at hoccurs
  · intro h
    induction h with
    | self => exact self_mem_nodes node
    | argument hpart _ ih => exact nodes_subset_of_mem_children hpart ih
    | operand _ ih | left _ ih | right _ ih =>
      exact nodes_subset_of_mem_children (by simp [children]) ih

/-! ## Keys -/

/-- A call of the given kind among the nodes has the literal `key` as its first argument. -/
def Names (formula : Formula) (kind : KeyedCall) (key : Value) : Prop :=
  ∃ rest, call kind.name (text key :: rest) ∈ formula.nodes

/-- A literal text names its value; of what any other formula gives, nothing is known before a
run. -/
def MayGive (formula : Formula) (key : Value) : Prop :=
  ∀ literal, formula = text literal → key = literal

/-- The key that a first argument gives: the text of a literal, or the mark of any other formula. -/
theorem keyOf_eq_iff {first : Formula} {key : String} :
    keyOf first = key ↔
      (∃ literal, first = text literal ∧ literal.toText = key) ∨
        (∀ literal, first ≠ text literal) ∧ key = dynamicKey := by
  cases first <;> simp [keyOf, eq_comm]

end Formula

namespace Dependencies

/-- The keys that are reported for one kind of call. -/
def keys (d : Dependencies) : Formula.KeyedCall → List String
  | .parameter => d.parameters
  | .employeeParameter => d.employeeParameters
  | .group => d.groups

theorem mem_distinct_iff {key : String} {keys : List String} : key ∈ distinct keys ↔ key ∈ keys := by
  suffices h : ∀ found : List String,
      key ∈ keys.foldl (fun found key ↦ if found.contains key then found else found ++ [key]) found ↔
        key ∈ found ∨ key ∈ keys by
    simpa [distinct] using h []
  induction keys with
  | nil => simp
  | cons first rest ih =>
    intro found
    rw [List.foldl_cons, ih]
    split <;> rename_i hfound
    · have := List.contains_iff_mem.1 hfound
      grind
    · grind

theorem mem_variableKeys_iff {formula : Formula} {key : String} :
    key ∈ (ofFormula formula).variableKeys ↔
      ∃ path, .variable path ∈ formula.nodes ∧ variableKey path = key := by
  rw [ofFormula, mem_distinct_iff, List.mem_filterMap]
  constructor
  · rintro ⟨node, hnode, hkey⟩
    cases node with
    | «variable» path => exact ⟨path, hnode, Option.some.inj hkey⟩
    | _ => nomatch hkey
  · rintro ⟨path, hnode, rfl⟩
    exact ⟨_, hnode, rfl⟩

theorem keys_ofFormula (formula : Formula) (kind : Formula.KeyedCall) :
    (ofFormula formula).keys kind =
      distinct (formula.nodes.filterMap (Formula.callKey? kind)) := by
  cases kind <;> rfl

theorem mem_keys_iff {formula : Formula} {kind : Formula.KeyedCall} {key : String} :
    key ∈ (ofFormula formula).keys kind ↔
      ∃ first rest, .call kind.name (first :: rest) ∈ formula.nodes ∧ Formula.keyOf first = key := by
  rw [keys_ofFormula, mem_distinct_iff, List.mem_filterMap]
  constructor
  · rintro ⟨node, hnode, hkey⟩
    unfold Formula.callKey? at hkey
    split at hkey
    · rename_i name first rest
      split at hkey
      · rename_i hname
        subst hname
        exact ⟨first, rest, hnode, Option.some.inj hkey⟩
      · nomatch hkey
    · nomatch hkey
  · rintro ⟨first, rest, hnode, rfl⟩
    exact ⟨_, hnode, if_pos rfl⟩

end Dependencies

end PayFormula
