import Mathlib
import PayFormula.Proofs.Formula.Nodes

/-!
# The Order of Nodes

The nodes of a formula come from a walk over a stack of what is still to be visited.  The walk takes
each node before its parts and the parts from left to right, which is what a recursion over the tree
gives as well.  In terms of addresses, which say at each level the part to go to, the nodes are the
parts at all addresses of the formula in the order of a dictionary.

Each list of dependencies follows that order: a key stands where the first node that has it came.
-/

namespace PayFormula

namespace Formula

/-! ## The stack -/

/-- A walk over a stack, the last member of which is on top.  The top is visited, and its parts are
pushed from the last one to the first. -/
inductive Visits : List Formula → List Formula → Prop where
  | done : Visits [] []
  | step {stack visited : List Formula} {top : Formula}
    (h : Visits (stack ++ top.children.reverse) visited) : Visits (stack ++ [top]) (top :: visited)

theorem visits_reverse (pending : List Formula) : Visits pending.reverse (walk pending) := by
  fun_induction walk pending with
  | case1 => exact .done
  | case2 formula pending ih =>
    rw [List.reverse_append] at ih
    rw [List.reverse_cons]
    exact .step ih

/-- A stack that is turned over holds what is pending. -/
theorem visits_iff {stack visited : List Formula} :
    Visits stack visited ↔ visited = walk stack.reverse := by
  constructor
  · intro h
    induction h with
    | done => rw [List.reverse_nil, walk]
    | step _ ih =>
      rw [List.reverse_append, List.reverse_reverse] at ih
      rw [List.reverse_concat, walk, ih]
  · rintro rfl
    simpa using visits_reverse stack.reverse

/-! ## The tree -/

mutual

/-- A tree with its parts after it, each with its own parts after it. -/
def preorder : Formula → List Formula
  | call name arguments => call name arguments :: preorderEach arguments
  | unary operator operand => unary operator operand :: preorder operand
  | binary operator left right => binary operator left right :: (preorder left ++ preorder right)
  | formula => [formula]

def preorderEach : List Formula → List Formula
  | [] => []
  | formula :: rest => preorder formula ++ preorderEach rest

end

theorem walk_cons (formula : Formula) (rest : List Formula) :
    walk (formula :: rest) = formula.nodes ++ walk rest := by
  rw [← List.singleton_append, walk_append, nodes]

/-- What passes from the parts of a formula to the formula holds of every formula. -/
theorem induction_parts {P : Formula → Prop}
    (step : ∀ formula, (∀ part ∈ formula.children, P part) → P formula) (formula : Formula) :
    P formula := by
  have hall : ∀ count formula, size formula ≤ count → P formula := by
    intro count
    induction count with
    | zero => intro formula h; exact absurd h (by cases formula <;> simp [size])
    | succ count ih =>
      intro formula h
      refine step formula fun part hpart ↦ ih part ?_
      have hsize := sizeOfAll_children formula
      obtain ⟨before, after, hchildren⟩ := List.append_of_mem hpart
      rw [hchildren, sizeOfAll_append, sizeOfAll] at hsize
      omega
  exact hall _ formula le_rfl

theorem preorder_eq (formula : Formula) :
    formula.preorder = formula :: preorderEach formula.children := by
  cases formula <;> simp [preorder, preorderEach, children]

theorem walk_eq_preorderEach {formulas : List Formula}
    (h : ∀ formula ∈ formulas, formula.nodes = formula.preorder) :
    walk formulas = preorderEach formulas := by
  induction formulas with
  | nil => rw [walk, preorderEach]
  | cons formula rest ih =>
    rw [List.forall_mem_cons] at h
    rw [walk_cons, preorderEach, h.1, ih h.2]

theorem nodes_eq_preorder (formula : Formula) : formula.nodes = formula.preorder := by
  induction formula using induction_parts with
  | step formula ih => rw [nodes_eq, preorder_eq, walk_eq_preorderEach ih]

/-! ## Addresses -/

/-- The part at an address, if there is one. -/
def part? (formula : Formula) : List ℕ → Option Formula
  | [] => some formula
  | index :: address => formula.children[index]?.bind fun part ↦ part.part? address

mutual

/-- The addresses of a formula. -/
def addresses : Formula → List (List ℕ)
  | call _ arguments => [] :: addressesFrom 0 arguments
  | unary _ operand => [] :: (addresses operand).map (0 :: ·)
  | binary _ left right =>
    [] :: ((addresses left).map (0 :: ·) ++ (addresses right).map (1 :: ·))
  | _ => [[]]

/-- The addresses of parts, the first of which has the index. -/
def addressesFrom (index : ℕ) : List Formula → List (List ℕ)
  | [] => []
  | formula :: rest => (addresses formula).map (index :: ·) ++ addressesFrom (index + 1) rest

end

theorem addresses_eq (formula : Formula) :
    formula.addresses = [] :: addressesFrom 0 formula.children := by
  cases formula <;> simp [addresses, addressesFrom, children]

theorem mem_addressesFrom_iff {formulas : List Formula} {index : ℕ} {address : List ℕ} :
    address ∈ addressesFrom index formulas ↔
      ∃ place, ∃ part ∈ formulas[place]?, ∃ inside ∈ part.addresses,
        address = (index + place) :: inside := by
  induction formulas generalizing index with
  | nil => simp [addressesFrom]
  | cons formula rest ih =>
    rw [addressesFrom, List.mem_append, ih, List.mem_map]
    constructor
    · rintro (⟨inside, hinside, rfl⟩ | ⟨place, part, hpart, inside, hinside, rfl⟩)
      · exact ⟨0, formula, rfl, inside, hinside, rfl⟩
      · exact ⟨place + 1, part, hpart, inside, hinside, by rw [Nat.add_right_comm, Nat.add_assoc]⟩
    · rintro ⟨_ | place, part, hpart, inside, hinside, rfl⟩
      · obtain rfl := Option.some.inj hpart
        exact .inl ⟨inside, hinside, rfl⟩
      · refine .inr ⟨place, part, hpart, inside, hinside, ?_⟩
        rw [Nat.add_right_comm, Nat.add_assoc]

/-- Every address of a part is listed, and no other. -/
theorem mem_addresses_iff {formula : Formula} {address : List ℕ} :
    address ∈ formula.addresses ↔ (formula.part? address).isSome := by
  induction address generalizing formula with
  | nil => simp [addresses_eq, part?]
  | cons index inside ih =>
    rw [addresses_eq, part?, List.mem_cons, mem_addressesFrom_iff]
    cases hpart : formula.children[index]? with
    | none => simp [hpart]
    | some part => simp [hpart, ih]

theorem sorted_addressesFrom {formulas : List Formula}
    (h : ∀ formula ∈ formulas, formula.addresses.Pairwise (· < ·)) (index : ℕ) :
    (addressesFrom index formulas).Pairwise (· < ·) := by
  induction formulas generalizing index with
  | nil => exact .nil
  | cons formula rest ih =>
    rw [List.forall_mem_cons] at h
    rw [addressesFrom, List.pairwise_append]
    refine ⟨?_, ih h.2 (index + 1), ?_⟩
    · exact h.1.map _ fun _ _ hlt ↦ List.Lex.cons hlt
    · intro first hfirst second hsecond
      obtain ⟨inside, -, rfl⟩ := List.mem_map.1 hfirst
      obtain ⟨place, -, -, other, -, rfl⟩ := mem_addressesFrom_iff.1 hsecond
      exact List.Lex.rel (by omega)

/-- Addresses are listed in the order of a dictionary: one before those that go on from it, and
otherwise by the first index that differs. -/
theorem sorted_addresses (formula : Formula) : formula.addresses.Pairwise (· < ·) := by
  induction formula using induction_parts with
  | step formula ih =>
    rw [addresses_eq, List.pairwise_cons]
    refine ⟨?_, sorted_addressesFrom ih 0⟩
    intro address haddress
    obtain ⟨place, -, -, inside, -, rfl⟩ := mem_addressesFrom_iff.1 haddress
    exact List.Lex.nil

theorem walk_addressesFrom {formulas : List Formula}
    (h : ∀ formula ∈ formulas, List.Forall₂ (fun address node ↦ formula.part? address = some node)
      formula.addresses formula.nodes) (index : ℕ) :
    List.Forall₂ (fun address node ↦ ∃ place inside, address = (index + place) :: inside ∧
        (formulas[place]?.bind fun part ↦ part.part? inside) = some node)
      (addressesFrom index formulas) (walk formulas) := by
  induction formulas generalizing index with
  | nil =>
    rw [addressesFrom, walk]
    exact .nil
  | cons formula rest ih =>
    rw [List.forall_mem_cons] at h
    rw [addressesFrom, walk_cons]
    apply List.rel_append
    · rw [List.forall₂_map_left_iff]
      exact h.1.imp fun inside node hnode ↦ ⟨0, inside, rfl, hnode⟩
    · refine (ih h.2 (index + 1)).imp ?_
      rintro _ node ⟨place, inside, rfl, hnode⟩
      exact ⟨place + 1, inside, by rw [Nat.add_right_comm, Nat.add_assoc], hnode⟩

/-- The nodes are the parts at the addresses, one for each of them. -/
theorem nodes_at_addresses (formula : Formula) :
    List.Forall₂ (fun address node ↦ formula.part? address = some node) formula.addresses
      formula.nodes := by
  induction formula using induction_parts with
  | step formula ih =>
    rw [addresses_eq, nodes_eq]
    refine .cons rfl ((walk_addressesFrom ih 0).imp ?_)
    rintro _ node ⟨place, inside, rfl, hnode⟩
    rwa [Nat.zero_add]

end Formula

/-! ## Keys in the order of the nodes -/

namespace Dependencies

theorem distinct_concat (keys : List String) (key : String) :
    distinct (keys ++ [key]) =
      if key ∈ keys then distinct keys else distinct keys ++ [key] := by
  rw [distinct, List.foldl_concat, ← distinct]
  simp only [List.contains_iff_mem, mem_distinct_iff]

/-- The place of the first node with a key. -/
def firstPlace (key? : Formula → Option String) (nodes : List Formula) (key : String) : ℕ :=
  nodes.findIdx fun node ↦ key? node == some key

variable {key? : Formula → Option String}

theorem firstPlace_lt_iff {nodes : List Formula} {key : String} :
    firstPlace key? nodes key < nodes.length ↔ key ∈ nodes.filterMap key? := by
  simp [firstPlace, List.findIdx_lt_length, List.mem_filterMap]

theorem firstPlace_append {nodes : List Formula} {key : String}
    (h : key ∈ nodes.filterMap key?) (others : List Formula) :
    firstPlace key? (nodes ++ others) key = firstPlace key? nodes key := by
  rw [firstPlace, List.findIdx_append]
  exact if_pos (firstPlace_lt_iff.2 h)

theorem length_le_firstPlace_append {nodes : List Formula} {key : String}
    (h : key ∉ nodes.filterMap key?) (others : List Formula) :
    nodes.length ≤ firstPlace key? (nodes ++ others) key := by
  rw [← firstPlace_lt_iff] at h
  rw [firstPlace, List.findIdx_append]
  exact (Nat.le_add_left _ _).trans_eq (if_neg h).symm

/-- Keys are listed by the places at which they come first. -/
theorem sorted_distinct (key? : Formula → Option String) (nodes : List Formula) :
    (distinct (nodes.filterMap key?)).Pairwise fun first second ↦
      firstPlace key? nodes first < firstPlace key? nodes second := by
  induction nodes using List.reverseRecOn with
  | nil => exact .nil
  | append_singleton nodes node ih =>
    have hold : (distinct (nodes.filterMap key?)).Pairwise fun first second ↦
        firstPlace key? (nodes ++ [node]) first < firstPlace key? (nodes ++ [node]) second := by
      refine ih.imp_of_mem fun hfirst hsecond hlt ↦ ?_
      rwa [firstPlace_append (mem_distinct_iff.1 hfirst),
        firstPlace_append (mem_distinct_iff.1 hsecond)]
    rw [List.filterMap_append]
    cases hkey : key? node with
    | none => simpa [hkey] using hold
    | some key =>
      rw [List.filterMap_cons_some hkey, List.filterMap_nil, distinct_concat]
      split
      · exact hold
      · next hnew =>
        rw [List.pairwise_append]
        refine ⟨hold, List.pairwise_singleton _ _, fun first hfirst second hsecond ↦ ?_⟩
        obtain rfl := List.mem_singleton.1 hsecond
        have hmember := mem_distinct_iff.1 hfirst
        calc
          _ = firstPlace key? nodes first := firstPlace_append hmember _
          _ < nodes.length := firstPlace_lt_iff.2 hmember
          _ ≤ _ := length_le_firstPlace_append hnew _

/-- No key comes first at two places. -/
theorem nodup_distinct (key? : Formula → Option String) (nodes : List Formula) :
    (distinct (nodes.filterMap key?)).Nodup :=
  (sorted_distinct key? nodes).imp fun hlt heq ↦ hlt.ne (congrArg _ heq)

/-- Every list of dependencies holds each of its keys once, by the place at which it comes first: the
paths of the variables in lower case and, for each kind of call, the texts that it names and the mark
of a first argument that is no text. -/
structure FollowNodes (d : Dependencies) (nodes : List Formula) : Prop where
  variableKey_mem_iff : ∀ key, key ∈ d.variableKeys ↔
    ∃ path, .variable path ∈ nodes ∧ variableKey path = key
  variableKeys_nodup : d.variableKeys.Nodup
  variableKeys_sorted : d.variableKeys.Pairwise fun first second ↦
    firstPlace Formula.variableKey? nodes first < firstPlace Formula.variableKey? nodes second
  key_mem_iff : ∀ kind key, key ∈ d.keys kind ↔
    ∃ first rest, .call kind.name (first :: rest) ∈ nodes ∧
      ((∃ literal, first = .text literal ∧ literal.toText = key) ∨
        (∀ literal, first ≠ .text literal) ∧ key = Formula.dynamicKey)
  keys_nodup : ∀ kind, (d.keys kind).Nodup
  keys_sorted : ∀ kind, (d.keys kind).Pairwise fun first second ↦
    firstPlace (Formula.callKey? kind) nodes first <
      firstPlace (Formula.callKey? kind) nodes second
  concepts : d.concepts = []

theorem followNodes_ofFormula (formula : Formula) :
    (ofFormula formula).FollowNodes formula.nodes where
  variableKey_mem_iff _ := mem_variableKeys_iff
  variableKeys_nodup := nodup_distinct _ _
  variableKeys_sorted := sorted_distinct _ _
  key_mem_iff kind key := by
    simp only [mem_keys_iff, Formula.keyOf_eq_iff]
  keys_nodup kind := by
    rw [keys_ofFormula]
    exact nodup_distinct _ _
  keys_sorted kind := by
    rw [keys_ofFormula]
    exact sorted_distinct _ _
  concepts := rfl

end Dependencies

namespace Formula

/-- Nodes are listed as the parts of a formula at all its addresses, in the order of a dictionary. -/
structure ListsParts (formula : Formula) (addresses : List (List ℕ)) (nodes : List Formula) :
    Prop where
  sorted : addresses.Pairwise (· < ·)
  mem_iff : ∀ address, address ∈ addresses ↔ (formula.part? address).isSome
  parts : List.Forall₂ (fun address node ↦ formula.part? address = some node) addresses nodes

/-- The walk over a stack ends, and what it has visited then are the nodes as the recursion over the
tree lists them: the parts at all addresses, parents first and from left to right.  The dependencies
are the keys of these nodes, each at its first place. -/
theorem walk_is_preorder (formula : Formula) :
    (∀ visited, Visits [formula] visited ↔ visited = formula.nodes) ∧
    formula.nodes = formula.preorder ∧
    formula.ListsParts formula.addresses formula.nodes ∧
    (Dependencies.ofFormula formula).FollowNodes formula.nodes := by
  refine ⟨fun visited ↦ visits_iff, nodes_eq_preorder formula, ?_, ?_⟩
  · exact ⟨sorted_addresses formula, fun _ ↦ mem_addresses_iff, nodes_at_addresses formula⟩
  · exact Dependencies.followNodes_ofFormula formula

end Formula

end PayFormula
