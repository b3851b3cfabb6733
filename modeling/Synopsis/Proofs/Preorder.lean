/-
Module: Synopsis.Proofs.Preorder
Purpose: The cursor's walk against the addresses of a tree.  An address is the list of child numbers
  on the way down from the root; in the lexicographic order a node stands before everything below
  it, and everything below it before its right siblings.
Main exports:
  Node.at?, Node.addresses, Node.ListsOnce, Node.listsOnce_preorder, gather_eq_yieldAll_preorder
-/
import Synopsis.Proofs.FirstFault

namespace Synopsis

universe u v

namespace Node

/-! ### Addresses -/

/-- The node at an address. -/
def at? : Node → List Nat → Option Node
  | node, [] => some node
  | node, index :: rest => node.children[index]?.bind fun child => child.at? rest

mutual

/-- The addresses of a tree in pre-order. -/
def addresses : Node → List (List Nat)
  | mk _ children => [] :: addressesFrom 0 children

/-- The addresses below a node of its children from number `index` on. -/
def addressesFrom (index : Nat) : List Node → List (List Nat)
  | [] => []
  | node :: nodes => (addresses node).map (index :: ·) ++ addressesFrom (index + 1) nodes

end

/-- A list holds every node of a tree exactly once, in the order of their addresses. -/
def ListsOnce (root : Node) (nodes : List Node) : Prop :=
  ∃ addresses : List (List Nat), addresses.Pairwise (· < ·) ∧
    (∀ address, address ∈ addresses ↔ (root.at? address).isSome) ∧
    addresses.map root.at? = nodes.map some

mutual

/-- The addresses that are listed are those where a node stands. -/
theorem mem_addresses_iff : ∀ (node : Node) (address : List Nat),
    address ∈ node.addresses ↔ (node.at? address).isSome
  | mk row children, address => by
      cases address with
      | nil => simp [addresses, at?]
      | cons index rest =>
          rw [addresses, List.mem_cons, mem_addressesFrom_iff children 0 (index :: rest)]
          simp [at?, Node.children]

/-- The listed addresses below a node start with the number of one of its children. -/
theorem mem_addressesFrom_iff : ∀ (nodes : List Node) (first : Nat) (address : List Nat),
    address ∈ addressesFrom first nodes ↔
      ∃ index rest, address = (first + index) :: rest ∧
        (nodes[index]?.bind fun child => child.at? rest).isSome
  | [], first, address => by
      simp [addressesFrom]
  | node :: nodes, first, address => by
      rw [addressesFrom, List.mem_append, mem_addressesFrom_iff nodes (first + 1) address]
      constructor
      · rintro (member | ⟨index, rest, rfl, found⟩)
        · rcases List.mem_map.mp member with ⟨rest, restMember, rfl⟩
          exact ⟨0, rest, rfl, (mem_addresses_iff node rest).mp restMember⟩
        · refine ⟨index + 1, rest, ?_, ?_⟩
          · rw [Nat.add_assoc, Nat.add_comm 1 index]
          · simpa using found
      · rintro ⟨index, rest, rfl, found⟩
        cases index with
        | zero =>
            refine Or.inl (List.mem_map.mpr ⟨rest, ?_, rfl⟩)
            exact (mem_addresses_iff node rest).mpr (by simpa using found)
        | succ index =>
            refine Or.inr ⟨index, rest, ?_, by simpa using found⟩
            rw [Nat.add_assoc, Nat.add_comm 1 index]

end

mutual

/-- Addresses are listed in lexicographic order, none of them twice. -/
theorem pairwise_addresses : ∀ node : Node, node.addresses.Pairwise (· < ·)
  | mk row children => by
      rw [addresses, List.pairwise_cons]
      refine ⟨?_, pairwise_addressesFrom children 0⟩
      intro address member
      rcases (mem_addressesFrom_iff children 0 address).mp member with ⟨index, rest, rfl, -⟩
      exact List.nil_lt_cons _ _

/-- The addresses below a node are listed in lexicographic order, none of them twice. -/
theorem pairwise_addressesFrom : ∀ (nodes : List Node) (first : Nat),
    (addressesFrom first nodes).Pairwise (· < ·)
  | [], first => by
      rw [addressesFrom]
      exact List.Pairwise.nil
  | node :: nodes, first => by
      rw [addressesFrom, List.pairwise_append]
      refine ⟨?_, pairwise_addressesFrom nodes (first + 1), ?_⟩
      · rw [List.pairwise_map]
        refine (pairwise_addresses node).imp ?_
        intro left right less
        exact List.cons_lt_cons_iff.mpr (Or.inr ⟨rfl, less⟩)
      · intro left leftMember right rightMember
        rcases List.mem_map.mp leftMember with ⟨rest, -, rfl⟩
        obtain ⟨index, others, rfl, -⟩ :=
          (mem_addressesFrom_iff nodes (first + 1) right).mp rightMember
        exact List.cons_lt_cons_iff.mpr (Or.inl (by omega))

end

mutual

/-- Reading a tree at its addresses gives its nodes in pre-order. -/
theorem map_at?_addresses : ∀ node : Node, node.addresses.map node.at? = node.preorder.map some
  | mk row children => by
      rw [addresses, preorder, List.map_cons, List.map_cons]
      refine congrArg (some (mk row children) :: ·) ?_
      refine map_addressesFrom children 0 (mk row children).at? ?_
      intro index rest
      rw [Nat.zero_add, at?, Node.children]

/-- Reading the children of a node at their addresses gives their nodes in pre-order. -/
theorem map_addressesFrom : ∀ (nodes : List Node) (first : Nat) (look : List Nat → Option Node),
    (∀ index rest, look ((first + index) :: rest) =
      nodes[index]?.bind fun child => child.at? rest) →
    (addressesFrom first nodes).map look = (preorderAll nodes).map some
  | [], first, look, _ => by
      simp [addressesFrom, preorderAll]
  | node :: nodes, first, look, agrees => by
      rw [addressesFrom, preorderAll, List.map_append, List.map_append, List.map_map]
      have head : (node.addresses.map (look ∘ (first :: ·))) = node.preorder.map some := by
        rw [← map_at?_addresses node]
        refine List.map_congr_left ?_
        intro rest _
        simpa using agrees 0 rest
      have tail : (addressesFrom (first + 1) nodes).map look = (preorderAll nodes).map some := by
        refine map_addressesFrom nodes (first + 1) look ?_
        intro index rest
        have shifted := agrees (index + 1) rest
        rw [Nat.add_comm index 1, ← Nat.add_assoc] at shifted
        simpa [Nat.add_comm 1 index] using shifted
      rw [head, tail]

end

/-- The pre-order of a tree holds each of its nodes exactly once. -/
theorem listsOnce_preorder (root : Node) : root.ListsOnce root.preorder :=
  ⟨root.addresses, pairwise_addresses root, mem_addresses_iff root, map_at?_addresses root⟩

theorem at?_append (node : Node) (above below : List Nat) :
    node.at? (above ++ below) = (node.at? above).bind fun inner => inner.at? below := by
  induction above generalizing node with
  | nil => rfl
  | cons index rest inductionHypothesis =>
      rw [List.cons_append, at?, at?]
      cases node.children[index]? with
      | none => rfl
      | some child => exact inductionHypothesis child

/-- The nodes of a tree are those that stand at an address. -/
theorem mem_preorder_iff {root node : Node} :
    node ∈ root.preorder ↔ ∃ address, root.at? address = some node := by
  have listed : some node ∈ root.preorder.map some ↔ node ∈ root.preorder := by simp
  rw [← listed, ← map_at?_addresses, List.mem_map]
  constructor
  · rintro ⟨address, -, found⟩
    exact ⟨address, found⟩
  · rintro ⟨address, found⟩
    refine ⟨address, (mem_addresses_iff root address).mpr ?_, found⟩
    rw [found]
    rfl

/-- The pre-order of a tree is its root and the pre-order of what is below. -/
theorem preorder_eq (node : Node) : node.preorder = node :: preorderAll node.children := by
  cases node with
  | mk row children => rw [preorder, Node.children]

theorem preorderAll_eq_flatMap (nodes : List Node) :
    preorderAll nodes = nodes.flatMap preorder := by
  induction nodes with
  | nil => rw [preorderAll, List.flatMap_nil]
  | cons node rest inductionHypothesis => rw [preorderAll, inductionHypothesis, List.flatMap_cons]

/-- Trees stand in their pre-order in the same order. -/
theorem sublist_preorderAll (nodes : List Node) : nodes.Sublist (preorderAll nodes) := by
  induction nodes with
  | nil => exact List.nil_sublist _
  | cons node rest inductionHypothesis =>
      rw [preorderAll, preorder_eq, List.cons_append]
      exact (inductionHypothesis.trans (List.sublist_append_right _ _)).cons_cons node

mutual

/-- A subtree of a subtree is a subtree. -/
theorem preorder_sublist_of_mem : ∀ {root node : Node}, node ∈ root.preorder →
    node.preorder.Sublist root.preorder
  | mk row children, node, member => by
      rw [preorder, List.mem_cons] at member
      rcases member with rfl | below
      · exact List.Sublist.refl _
      · rw [preorder]
        exact (preorder_sublist_of_mem_preorderAll below).cons _

theorem preorder_sublist_of_mem_preorderAll : ∀ {nodes : List Node} {node : Node},
    node ∈ preorderAll nodes → node.preorder.Sublist (preorderAll nodes)
  | [], node, member => by
      simp [preorderAll] at member
  | first :: rest, node, member => by
      rw [preorderAll, List.mem_append] at member
      rw [preorderAll]
      rcases member with inFirst | inRest
      · exact (preorder_sublist_of_mem inFirst).trans (List.sublist_append_left _ _)
      · exact (preorder_sublist_of_mem_preorderAll inRest).trans (List.sublist_append_right _ _)

end

end Node

/-! ### The walk of the cursor

Each of the four equations below says where one call of the walk goes; the cursor itself drops out
because the types of the walk already say where it is given back.
-/

namespace Cursor

variable {ε : Type u} {α : Type v} {yield : Node → Except ε (List α)}

private theorem visit_of_stuck {cursor : Cursor} (stuck : cursor.firstChild? = none)
    (found : Array α) :
    (cursor.visit yield found).map (·.1.2.toList) =
      (yield cursor.node).map (found.toList ++ ·) := by
  rw [visit]
  cases yield cursor.node with
  | error fault => rfl
  | ok items =>
      simp only [bind, Except.bind]
      split
      · simp [Except.map]
      · next moved => simp [stuck] at moved

private theorem visit_of_moved {cursor child : Cursor} (moved : cursor.firstChild? = some child)
    (found : Array α) :
    (cursor.visit yield found).map (·.1.2.toList) =
      (yield cursor.node).bind fun items =>
        (child.visitSiblings yield (found ++ items)).map (·.1.2.toList) := by
  rw [visit]
  cases yield cursor.node with
  | error fault => rfl
  | ok items =>
      simp only [bind, Except.bind]
      split
      · next stuck => simp [stuck] at moved
      · next other otherMoved =>
          obtain rfl : child = other := by simpa [moved] using otherMoved
          cases child.visitSiblings yield (found ++ items) <;> rfl

private theorem visitSiblings_of_stuck {cursor : Cursor} (stuck : cursor.nextSibling? = none)
    (found : Array α) :
    (cursor.visitSiblings yield found).map (·.1.2.toList) =
      (cursor.visit yield found).map (·.1.2.toList) := by
  rw [visitSiblings]
  cases cursor.visit yield found with
  | error fault => rfl
  | ok walked =>
      rcases walked with ⟨⟨here, found⟩, rfl⟩
      simp only [bind, Except.bind]
      split
      · rfl
      · next moved => simp [stuck] at moved

private theorem visitSiblings_of_moved {cursor next : Cursor}
    (moved : cursor.nextSibling? = some next) (found : Array α) :
    (cursor.visitSiblings yield found).map (·.1.2.toList) =
      (cursor.visit yield found).bind fun walked =>
        (next.visitSiblings yield walked.1.2).map (·.1.2.toList) := by
  rw [visitSiblings]
  cases cursor.visit yield found with
  | error fault => rfl
  | ok walked =>
      rcases walked with ⟨⟨here, found⟩, rfl⟩
      simp only [bind, Except.bind]
      split
      · next stuck => simp [stuck] at moved
      · next other otherMoved =>
          obtain rfl : next = other := by simpa [moved] using otherMoved
          cases next.visitSiblings yield found <;> rfl

mutual

/-- The walk over a subtree adds what its nodes yield in pre-order. -/
theorem visit_eq_yieldAll : ∀ (cursor : Cursor) (found : Array α),
    (cursor.visit yield found).map (·.1.2.toList) =
      (yieldAll yield cursor.node.preorder).map (found.toList ++ ·)
  | cursor, found => by
      rw [Node.preorder_eq, yieldAll_cons]
      cases down : cursor.firstChild? with
      | none =>
          rw [visit_of_stuck down, children_of_firstChild?_eq_none down, Node.preorderAll,
            yieldAll_nil]
          cases yield cursor.node with
          | error fault => rfl
          | ok items => simp [Except.map, bind, Except.bind]
      | some child =>
          rw [visit_of_moved down, children_of_firstChild? down]
          cases yield cursor.node with
          | error fault => rfl
          | ok items =>
              have below := visitSiblings_eq_yieldAll child (found ++ items)
              simp only [Except.bind, bind, below]
              cases yieldAll yield (Node.preorderAll (child.node :: child.following)) with
              | error fault => rfl
              | ok others => simp [Except.map]
termination_by cursor => 2 * cursor.node.weight
decreasing_by
  rw [Node.weight_eq, children_of_firstChild? down]
  omega

/-- The loop over the siblings adds what their subtrees yield, sibling after sibling. -/
theorem visitSiblings_eq_yieldAll : ∀ (cursor : Cursor) (found : Array α),
    (cursor.visitSiblings yield found).map (·.1.2.toList) =
      (yieldAll yield (Node.preorderAll (cursor.node :: cursor.following))).map
        (found.toList ++ ·)
  | cursor, found => by
      have here := visit_eq_yieldAll cursor found
      rw [Node.preorderAll, yieldAll_append]
      cases right : cursor.nextSibling? with
      | none =>
          rw [visitSiblings_of_stuck right, here, following_of_nextSibling?_eq_none right,
            Node.preorderAll, yieldAll_nil]
          cases yieldAll yield cursor.node.preorder with
          | error fault => rfl
          | ok items => simp [Except.map, bind, Except.bind]
      | some next =>
          rw [visitSiblings_of_moved right, following_of_nextSibling? right]
          cases walkedEq : cursor.visit yield found with
          | error fault =>
              rw [walkedEq] at here
              rw [map_eq_error_iff.mp here.symm]
              rfl
          | ok walked =>
              rw [walkedEq] at here
              rcases map_eq_ok_iff.mp here.symm with ⟨items, itemsEq, foundEq⟩
              have others := visitSiblings_eq_yieldAll next walked.1.2
              simp only [Except.bind, bind, itemsEq, others, ← foundEq]
              cases yieldAll yield (Node.preorderAll (next.node :: next.following)) with
              | error fault => rfl
              | ok rest => simp [Except.map]
termination_by cursor => 2 * Node.weightAll (cursor.node :: cursor.following) + 1
decreasing_by
  · rw [Node.weightAll_cons]
    omega
  · have positive := Node.weight_pos cursor.node
    rw [following_of_nextSibling? right, Node.weightAll_cons cursor.node]
    omega

end

end Cursor

/-- Walking the cursor through a tree reads its nodes in pre-order. -/
theorem gather_eq_yieldAll_preorder {ε : Type u} {α : Type v}
    (yield : Node → Except ε (List α)) (root : Node) :
    gather yield root = yieldAll yield root.preorder := by
  have walked : gather yield root = (yieldAll yield root.preorder).map ([] ++ ·) :=
    Cursor.visit_eq_yieldAll (Cursor.start root) #[]
  rw [walked]
  cases yieldAll yield root.preorder with
  | error fault => rfl
  | ok items => rfl

end Synopsis
