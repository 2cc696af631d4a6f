import Sections.Markup.Tree

/-!
# The order in which a tree is run through

Nodes still to be visited wait on a stack.  Each step takes the node on top and puts its children
there, the last child first, so that the first one comes next.  This visits a tree in pre-order: a
node before what is below it, and what is below one child before the next child.
-/

namespace Sections.Node

/-! ## Pre-order -/

theorem preorder_eq_cons (node : Node) : node.preorder = node :: preorderAll node.children := by
  obtain ⟨kind, range, children⟩ := node
  rw [preorder, Node.children]

theorem preorderAll_eq_flatMap (nodes : List Node) :
    preorderAll nodes = nodes.flatMap preorder := by
  induction nodes with
  | nil => simp [preorderAll]
  | cons node rest ih => simp [preorderAll, ih]

theorem drain_eq_flatMap (waiting : List Node) : drain waiting = waiting.flatMap preorder := by
  fun_induction drain waiting with
  | case1 => rfl
  | case2 node waiting ih =>
      rw [ih, List.flatMap_append, List.flatMap_cons, preorder_eq_cons, preorderAll_eq_flatMap,
        List.cons_append]

theorem descendants_eq_preorder (node : Node) : node.descendants = node.preorder := by
  simp [descendants, drain_eq_flatMap]

theorem descendants_eq_cons (node : Node) :
    node.descendants = node :: node.children.flatMap descendants := by
  simp only [funext descendants_eq_preorder, preorder_eq_cons node, preorderAll_eq_flatMap]

/-! ## The stack -/

/-- Takes the top of a stack, its last entry, and puts its children there, the first one on top. -/
def next? (stack : List Node) : Option (Node × List Node) :=
  stack.getLast?.map fun node => (node, stack.dropLast ++ node.children.reverse)

/-- The nodes that come from a stack, step after step until it is empty. -/
inductive Yields : List Node → List Node → Prop
  | done {stack : List Node} (hnext : next? stack = none) : Yields stack []
  | step {stack rest : List Node} {node : Node} {nodes : List Node}
    (hnext : next? stack = some (node, rest)) (hrest : Yields rest nodes) :
    Yields stack (node :: nodes)

theorem next?_nil : next? [] = none := rfl

theorem next?_concat (below : List Node) (node : Node) :
    next? (below ++ [node]) = some (node, below ++ node.children.reverse) := by
  simp [next?]

theorem yields_drain (waiting : List Node) : Yields waiting.reverse (drain waiting) := by
  fun_induction drain waiting with
  | case1 => exact .done next?_nil
  | case2 node waiting ih =>
      rw [List.reverse_append] at ih
      rw [List.reverse_cons]
      exact .step (next?_concat waiting.reverse node) ih

theorem Yields.unique {stack nodes nodes' : List Node} (h : Yields stack nodes)
    (h' : Yields stack nodes') : nodes = nodes' := by
  induction h generalizing nodes' with
  | done hnext =>
      cases h' with
      | done => rfl
      | step hnext' => simp [hnext] at hnext'
  | step hnext _ ih =>
      cases h' with
      | done hnext' => simp [hnext] at hnext'
      | step hnext' hrest' =>
          obtain ⟨rfl, rfl⟩ : _ ∧ _ := by simpa [hnext] using hnext'
          rw [ih hrest']

theorem yields_iff {node : Node} {nodes : List Node} :
    Yields [node] nodes ↔ nodes = node.descendants := by
  have hrun : Yields [node] node.descendants := yields_drain [node]
  exact ⟨fun h => h.unique hrun, fun h => h ▸ hrun⟩

/-! ## Addresses

An address leads from a node to one below it.  It says at each level which child is next, counted
from zero.  Equal nodes may stand in several places of a tree, and addresses tell them apart.
-/

def descend? (node : Node) : List Nat → Option Node
  | [] => some node
  | place :: address => node.children[place]?.bind fun child => child.descend? address

mutual

def addresses : Node → List (List Nat)
  | mk _ _ children => [] :: addressesFrom 0 children

def addressesFrom (place : Nat) : List Node → List (List Nat)
  | [] => []
  | node :: rest => (addresses node).map (place :: ·) ++ addressesFrom (place + 1) rest

end

theorem addresses_eq_cons (node : Node) :
    node.addresses = [] :: addressesFrom 0 node.children := by
  obtain ⟨kind, range, children⟩ := node
  rw [addresses, Node.children]

theorem mem_addressesFrom {first : Nat} {nodes : List Node} {address : List Nat} :
    address ∈ addressesFrom first nodes ↔
      ∃ place node inner, address = (first + place) :: inner ∧ nodes[place]? = some node ∧
        inner ∈ node.addresses := by
  induction nodes generalizing first with
  | nil => simp [addressesFrom]
  | cons node rest ih =>
      rw [addressesFrom, List.mem_append, List.mem_map, ih]
      constructor
      · rintro (⟨inner, hinner, rfl⟩ | ⟨place, child, inner, rfl, hchild, hinner⟩)
        · exact ⟨0, node, inner, rfl, rfl, hinner⟩
        · refine ⟨place + 1, child, inner, ?_, hchild, hinner⟩
          rw [Nat.add_right_comm, Nat.add_assoc]
      · rintro ⟨place, child, inner, rfl, hchild, hinner⟩
        cases place with
        | zero =>
            obtain rfl : node = child := by simpa using hchild
            exact .inl ⟨inner, hinner, rfl⟩
        | succ place =>
            refine .inr ⟨place, child, inner, ?_, hchild, hinner⟩
            rw [Nat.add_right_comm, Nat.add_assoc]

theorem cons_mem_addresses {node : Node} {place : Nat} {address : List Nat} :
    place :: address ∈ node.addresses ↔
      ∃ child, node.children[place]? = some child ∧ address ∈ child.addresses := by
  rw [addresses_eq_cons, List.mem_cons, mem_addressesFrom]
  constructor
  · rintro (hroot | ⟨_, child, _, heq, hchild, haddress⟩)
    · exact absurd hroot (List.cons_ne_nil place address)
    · rw [Nat.zero_add] at heq
      obtain ⟨rfl, rfl⟩ := List.cons.inj heq
      exact ⟨child, hchild, haddress⟩
  · rintro ⟨child, hchild, haddress⟩
    exact .inr ⟨place, child, address, by rw [Nat.zero_add], hchild, haddress⟩

theorem mem_addresses {node : Node} {address : List Nat} :
    address ∈ node.addresses ↔ (node.descend? address).isSome := by
  induction address generalizing node with
  | nil => simp [addresses_eq_cons, descend?]
  | cons place address ih =>
      rw [cons_mem_addresses, descend?]
      cases node.children[place]? with
      | none => simp
      | some child => simp [ih]

mutual

theorem pairwise_addresses : (node : Node) → node.addresses.Pairwise (· < ·)
  | mk kind range children => by
      rw [addresses, List.pairwise_cons]
      refine ⟨?_, pairwise_addressesFrom 0 children⟩
      intro address haddress
      obtain ⟨place, _, inner, rfl, -⟩ := mem_addressesFrom.mp haddress
      exact List.nil_lt_cons _ _

theorem pairwise_addressesFrom (place : Nat) :
    (nodes : List Node) → (addressesFrom place nodes).Pairwise (· < ·)
  | [] => by
      rw [addressesFrom]
      exact .nil
  | node :: rest => by
      have hinner : (node.addresses.map (place :: ·)).Pairwise (· < ·) :=
        List.pairwise_map.mpr ((pairwise_addresses node).imp fun h => List.cons_lt_cons_self.mpr h)
      rw [addressesFrom, List.pairwise_append]
      refine ⟨hinner, pairwise_addressesFrom (place + 1) rest, ?_⟩
      intro before hbefore after hafter
      obtain ⟨inner, -, rfl⟩ := List.mem_map.mp hbefore
      obtain ⟨further, _, tail, rfl, -⟩ := mem_addressesFrom.mp hafter
      exact List.cons_lt_cons_iff.mpr (.inl (by omega))

end

mutual

theorem map_descend?_addresses :
    (node : Node) → node.addresses.map node.descend? = node.preorder.map some
  | mk kind range children => by
      have hbelow := map_descend?_addressesFrom (mk kind range children) [] children rfl
      rw [addresses, preorder, List.map_cons, List.map_cons, ← hbelow]
      rfl

theorem map_descend?_addressesFrom (parent : Node) (front : List Node) :
    (back : List Node) → parent.children = front ++ back →
      (addressesFrom front.length back).map parent.descend? = (preorderAll back).map some
  | [], _ => by simp [addressesFrom, preorderAll]
  | node :: rest, hchildren => by
      have hnode : (node.addresses.map (front.length :: ·)).map parent.descend? =
          node.preorder.map some := by
        rw [← map_descend?_addresses node, List.map_map]
        refine List.map_congr_left fun address _ => ?_
        simp [descend?, hchildren]
      have hrest := map_descend?_addressesFrom parent (front ++ [node]) rest (by simp [hchildren])
      rw [List.length_append, List.length_singleton] at hrest
      rw [addressesFrom, preorderAll, List.map_append, List.map_append, hnode, hrest]

end

/--
The nodes of a tree come in pre-order, the node itself first and then its children with what is
below them, one after the other.  The stack runs empty when they have all come.  Each address of
the tree is visited once, as the addresses ascend.
-/
theorem descendants_in_preorder (tree : Node) :
    tree.descendants = tree :: tree.children.flatMap descendants ∧
      (∀ nodes, Yields [tree] nodes ↔ nodes = tree.descendants) ∧
      ∃ visits : List (List Nat), visits.Pairwise (· < ·) ∧
        (∀ address, address ∈ visits ↔ (tree.descend? address).isSome) ∧
        tree.descendants.map some = visits.map tree.descend? := by
  refine ⟨descendants_eq_cons tree, fun _ => yields_iff, tree.addresses, pairwise_addresses tree,
    fun _ => mem_addresses, ?_⟩
  rw [descendants_eq_preorder, map_descend?_addresses]

end Sections.Node
