/-
Module: Synopsis.Proofs.Locality
Purpose: What a subtree contributes to a collection.  The nodes of a subtree are a block of the
  pre-order, and a reading inside it looks at nothing outside, so its records are a block of the
  collection and are the same in every tree that holds the subtree.
Main exports:
  Node.nodesBefore, Node.nodesAfter, Node.preorder_eq_block, Node.childPlaces_sublist_places,
  elements_sublist_places, collect_has_subtree_as_block
-/
import Synopsis.Proofs.MissingParts

namespace Synopsis

namespace Node

/-! ### The block of a subtree

In the order of addresses a subtree stands between what comes before its top and what comes after
its top without being below it.
-/

/-- The nodes of a tree that come before the node at an address, in pre-order. -/
def nodesBefore (root : Node) (address : List Nat) : List Node :=
  (root.addresses.filter (· < address)).filterMap root.at?

/-- The nodes of a tree that come after the node at an address and are not below it, in
pre-order. -/
def nodesAfter (root : Node) (address : List Nat) : List Node :=
  (root.addresses.filter fun other => address < other && !address.isPrefixOf other).filterMap
    root.at?

/-- The addresses in one of several trees are a block of the addresses in all of them. -/
theorem addressesFrom_eq_block {nodes : List Node} {index : Nat} {child : Node} (first : Nat)
    (found : nodes[index]? = some child) :
    ∃ earlier later, addressesFrom first nodes =
      earlier ++ child.addresses.map ((first + index) :: ·) ++ later := by
  induction nodes generalizing first index with
  | nil => simp at found
  | cons node rest inductionHypothesis =>
      rw [addressesFrom]
      cases index with
      | zero =>
          obtain rfl : node = child := by simpa using found
          exact ⟨[], addressesFrom (first + 1) rest, rfl⟩
      | succ index =>
          obtain ⟨earlier, later, split⟩ := inductionHypothesis (first + 1) (by simpa using found)
          refine ⟨node.addresses.map (first :: ·) ++ earlier, later, ?_⟩
          rw [split, Nat.add_assoc, Nat.add_comm 1 index]
          simp only [List.append_assoc]

/-- The addresses of a subtree, seen from the root, are a block of all addresses. -/
theorem addresses_eq_block {root node : Node} {address : List Nat}
    (located : root.at? address = some node) :
    ∃ earlier later,
      root.addresses = earlier ++ node.addresses.map (address ++ ·) ++ later := by
  induction address generalizing root with
  | nil =>
      obtain rfl : root = node := by simpa [at?] using located
      exact ⟨[], [], by simp⟩
  | cons index rest inductionHypothesis =>
      rw [at?] at located
      obtain ⟨child, childEq, below⟩ := Option.bind_eq_some_iff.mp located
      obtain ⟨before, after, outer⟩ := addressesFrom_eq_block 0 childEq
      obtain ⟨earlier, later, inner⟩ := inductionHypothesis below
      cases root with
      | mk row children =>
          refine ⟨[] :: before ++ earlier.map (index :: ·), later.map (index :: ·) ++ after, ?_⟩
          rw [addresses, show addressesFrom 0 children = _ from outer, inner, Nat.zero_add]
          simp [Function.comp_def]

/-- The block of a subtree holds the addresses of the tree that start with its own. -/
theorem mem_block_iff {root node : Node} {address other : List Nat}
    (located : root.at? address = some node) :
    other ∈ node.addresses.map (address ++ ·) ↔
      other ∈ root.addresses ∧ address.isPrefixOf other = true := by
  rw [List.mem_map, List.isPrefixOf_iff_prefix, mem_addresses_iff]
  constructor
  · rintro ⟨below, member, rfl⟩
    rw [mem_addresses_iff] at member
    rw [at?_append, located]
    exact ⟨member, List.prefix_append _ _⟩
  · rintro ⟨found, below, rfl⟩
    rw [at?_append, located] at found
    exact ⟨below, (mem_addresses_iff node below).mpr found, rfl⟩

/-- Addresses are sorted, so the top of a subtree parts what is listed before its block from what is
listed after it. -/
theorem order_of_block {root node : Node} {address : List Nat} {earlier later : List (List Nat)}
    (located : root.at? address = some node)
    (split : root.addresses = earlier ++ node.addresses.map (address ++ ·) ++ later) :
    (∀ other ∈ earlier, other < address) ∧
      ∀ other ∈ later, address < other ∧ address.isPrefixOf other = false := by
  have sorted := pairwise_addresses root
  have top : address ∈ node.addresses.map (address ++ ·) :=
    List.mem_map.mpr ⟨[], (mem_addresses_iff node []).mpr rfl, List.append_nil _⟩
  rw [split, List.append_assoc, List.pairwise_append, List.pairwise_append] at sorted
  obtain ⟨-, ⟨-, -, blockFirst⟩, earlierFirst⟩ := sorted
  refine ⟨?_, ?_⟩
  · intro other member
    exact earlierFirst other member address (List.mem_append_left _ top)
  · intro other member
    refine ⟨blockFirst address top other member, ?_⟩
    rw [Bool.eq_false_iff]
    intro below
    have listed : other ∈ root.addresses := by
      rw [split]
      exact List.mem_append_right _ member
    have inBlock := (mem_block_iff located).mpr ⟨listed, below⟩
    exact List.lt_irrefl other (blockFirst other inBlock other member)

/-- Every address comes before those of a subtree, is one of them, or comes after them. -/
theorem addresses_eq_filter_append {root node : Node} {address : List Nat}
    (located : root.at? address = some node) :
    root.addresses =
      root.addresses.filter (· < address) ++ node.addresses.map (address ++ ·) ++
        root.addresses.filter fun other => address < other && !address.isPrefixOf other := by
  obtain ⟨earlier, later, split⟩ := addresses_eq_block located
  obtain ⟨earlierLess, laterGreater⟩ := order_of_block located split
  have before : root.addresses.filter (· < address) = earlier := by
    rw [split, List.append_assoc, List.filter_append, List.filter_eq_self.mpr (by simpa),
      List.filter_eq_nil_iff.mpr, List.append_nil]
    intro other member
    rw [decide_eq_true_eq]
    rcases List.mem_append.mp member with inside | beyond
    · obtain ⟨below, -, rfl⟩ := List.mem_map.mp inside
      exact List.le_append_left
    · exact List.lt_asymm (laterGreater other beyond).1
  have after : (root.addresses.filter fun other => address < other && !address.isPrefixOf other) =
      later := by
    rw [split, List.filter_append, List.filter_eq_nil_iff.mpr, List.nil_append,
      List.filter_eq_self.mpr]
    · intro other member
      simp [laterGreater other member]
    · intro other member
      rcases List.mem_append.mp member with beyond | inside
      · simp [List.lt_asymm (earlierLess other beyond)]
      · simp [((mem_block_iff located).mp inside).2]
  rw [before, after, split]

/-- Pre-order reads the tree at all its addresses. -/
theorem preorder_eq_filterMap (root : Node) :
    root.preorder = root.addresses.filterMap root.at? := by
  have listed := congrArg (List.filterMap id) (map_at?_addresses root)
  simpa [List.filterMap_map] using listed.symm

/-- The nodes of a subtree are a block of the pre-order. -/
theorem preorder_eq_block {root node : Node} {address : List Nat}
    (located : root.at? address = some node) :
    root.preorder = root.nodesBefore address ++ node.preorder ++ root.nodesAfter address := by
  have inside : (node.addresses.map (address ++ ·)).filterMap root.at? = node.preorder := by
    rw [List.filterMap_map, preorder_eq_filterMap]
    refine List.filterMap_congr fun below _ => ?_
    rw [Function.comp_apply, at?_append, located, Option.bind_some]
  rw [preorder_eq_filterMap, addresses_eq_filter_append located, List.filterMap_append,
    List.filterMap_append, inside]
  rfl

/-! ### Places inside a subtree

The elements of a declaration are read with their parent and the siblings that follow them.  Both
are children of the declaration or the declaration itself, whatever tree it stands in.
-/

theorem placesFrom_eq (parent : Option Node) (following : List Node) (node : Node) :
    placesFrom parent following node =
      ⟨node, parent, following⟩ :: placesBelow node node.children := by
  cases node with
  | mk row children => rw [placesFrom, Node.children]

theorem childPlaces_go_sublist (parent : Node) (nodes : List Node) :
    (childPlaces.go parent nodes).Sublist (placesBelow parent nodes) := by
  induction nodes with
  | nil => exact List.nil_sublist _
  | cons node rest inductionHypothesis =>
      rw [childPlaces.go, placesBelow, placesFrom_eq, List.cons_append]
      exact (inductionHypothesis.trans (List.sublist_append_right _ _)).cons_cons _

mutual

/-- The children of any node of a tree stand at the same places in the node and in the tree. -/
theorem childPlaces_sublist_placesFrom : ∀ {root node : Node} (parent : Option Node)
    (following : List Node), node ∈ root.preorder →
      node.childPlaces.Sublist (placesFrom parent following root)
  | mk row children, node, parent, following, member => by
      rw [preorder, List.mem_cons] at member
      rw [placesFrom]
      apply List.Sublist.cons
      rcases member with rfl | below
      · exact childPlaces_go_sublist _ _
      · exact childPlaces_sublist_placesBelow _ below

theorem childPlaces_sublist_placesBelow : ∀ {nodes : List Node} {node : Node} (parent : Node),
    node ∈ preorderAll nodes → node.childPlaces.Sublist (placesBelow parent nodes)
  | [], node, parent, member => by
      simp [preorderAll] at member
  | first :: rest, node, parent, member => by
      rw [preorderAll, List.mem_append] at member
      rw [placesBelow]
      rcases member with inFirst | inRest
      · exact (childPlaces_sublist_placesFrom _ _ inFirst).trans (List.sublist_append_left _ _)
      · exact (childPlaces_sublist_placesBelow _ inRest).trans (List.sublist_append_right _ _)

end

theorem childPlaces_sublist_places {root node : Node} (member : node ∈ root.preorder) :
    node.childPlaces.Sublist root.places :=
  childPlaces_sublist_placesFrom none [] member

end Node

/-- The elements that are read from any node of a tree stand at places of the tree. -/
theorem elements_sublist_places {root node : Node} (member : node ∈ root.preorder) :
    ∀ places ∈ [node.childPlaces, caseElements node, bindingPatterns node],
      places.Sublist root.places := by
  have children := Node.childPlaces_sublist_places member
  simp only [List.forall_mem_cons]
  exact ⟨children, (caseElements_sublist node).trans children,
    (bindingPatterns_sublist node).trans children, List.forall_mem_nil _⟩

/-! ### The records of a subtree -/

/-- The collection from a tree that can be collected has the collection from each of its subtrees
as a block, between what the nodes before the subtree and what those after it contribute.  A
subtree that cannot be collected makes the whole tree fail.  The elements of cases and the patterns
of variables inside the subtree are read at places with the same parents and the same following
siblings whether it stands alone or in the tree. -/
theorem collect_has_subtree_as_block {root node : Node} {address : List Nat}
    (located : root.at? address = some node) (source : String) (selector : Selector) :
    (∀ declarations, collect source selector root = .ok declarations →
      ∃ front block back,
        yieldAll (contribution source selector) (root.nodesBefore address) = .ok front ∧
        collect source selector node = .ok block ∧
        yieldAll (contribution source selector) (root.nodesAfter address) = .ok back ∧
        declarations = front ++ block ++ back) ∧
    (∀ fault, collect source selector node = .error fault →
      ∃ other, collect source selector root = .error other) ∧
    ∀ inner ∈ node.preorder,
      ∀ places ∈ [inner.childPlaces, caseElements inner, bindingPatterns inner],
        places.Sublist node.places ∧ places.Sublist root.places := by
  have block := Node.preorder_eq_block located
  have inside : ∀ inner ∈ node.preorder, inner ∈ root.preorder := by
    intro inner member
    rw [block]
    exact List.mem_append_left _ (List.mem_append_right _ member)
  refine ⟨?_, ?_, ?_⟩
  · intro declarations succeeded
    rw [collect_eq_yieldAll_contribution, block, yieldAll_append_eq_ok_iff] at succeeded
    obtain ⟨joined, back, joinedEq, backEq, rfl⟩ := succeeded
    obtain ⟨front, middle, frontEq, middleEq, rfl⟩ := yieldAll_append_eq_ok_iff.mp joinedEq
    rw [← collect_eq_yieldAll_contribution] at middleEq
    exact ⟨front, middle, back, frontEq, middleEq, backEq, rfl⟩
  · intro fault failed
    cases whole : collect source selector root with
    | error other => exact ⟨other, rfl⟩
    | ok declarations =>
        obtain ⟨alone, aloneEq⟩ :=
          collect_subtree whole (inside node node.mem_preorder_self)
        rw [failed] at aloneEq
        cases aloneEq
  · intro inner member places read
    exact ⟨elements_sublist_places member places read,
      elements_sublist_places (inside inner member) places read⟩

/-- The inner one of `nestedEnumerations`. -/
def innerEnumeration : Node :=
  .rule "class_declaration" 16 33 []
    [.token "enum" 16 20 ["declaration_kind"],
     .rule "type_identifier" 21 22 ["name"] [],
     .rule "enum_class_body" 23 33 ["body"] [caseOfLetter 25]]

/-- The inner enumeration and its case stand between the first and the last case of the outer one,
as they are collected from the inner enumeration alone. -/
theorem nestedEnumerations_has_inner_as_block :
    nestedEnumerations.at? [0, 2, 1] = some innerEnumeration ∧
    ∃ front block back,
      collect nestedEnumerationsText .any nestedEnumerations = .ok (front ++ block ++ back) ∧
      collect nestedEnumerationsText .any innerEnumeration = .ok block ∧
      block = [.enumeration (bareEnumeration "B" [bareCase "y"]), .enumCase (bareCase "y")] := by
  have located : nestedEnumerations.at? [0, 2, 1] = some innerEnumeration := rfl
  have alone : collect nestedEnumerationsText .any innerEnumeration =
      .ok [.enumeration (bareEnumeration "B" [bareCase "y"]), .enumCase (bareCase "y")] := by
    decide +kernel
  obtain ⟨front, block, back, -, blockEq, -, split⟩ :=
    (collect_has_subtree_as_block located nestedEnumerationsText .any).1 _
      collect_nestedEnumerations
  refine ⟨located, front, block, back, by rw [collect_nestedEnumerations, split], blockEq, ?_⟩
  rw [alone] at blockEq
  cases blockEq
  rfl

end Synopsis
