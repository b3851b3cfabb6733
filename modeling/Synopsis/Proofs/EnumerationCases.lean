/-
Module: Synopsis.Proofs.EnumerationCases
Purpose: The cases inside enumeration records against the case records of the same collection.
  Both are read from the same case declarations, once through the body of an enumeration and once
  by the walk; a case declaration has one parent and a body has one owner, so no case is counted
  for two enumerations.
Main exports:
  Declaration.case?, Declaration.enumeration?, ownCases, directCases, heldCases, CasesHoused,
  cases_of_enumerations_le_case_records
-/
import Mathlib.Data.List.Flatten
import Mathlib.Data.Multiset.OrderedMonoid
import Mathlib.Tactic.Abel
import Synopsis.Proofs.Collection

namespace Synopsis

namespace Declaration

/-- The record of a case. -/
def case? : Declaration → Option EnumCase
  | enumCase record => some record
  | _ => none

/-- The record of an enumeration. -/
def enumeration? : Declaration → Option Enumeration
  | enumeration record => some record
  | _ => none

end Declaration

/-! ### Cases by node -/

/-- The case records of one node; only a case declaration has any. -/
def ownCases (source : String) (node : Node) : List EnumCase :=
  if node.kind = "enum_entry" then (EnumCase.ofEntry source node).toOption.getD [] else []

/-- The case records of the children of a node. -/
def directCases (source : String) (node : Node) : List EnumCase :=
  node.children.flatMap (ownCases source)

/-- The cases that the record of a node holds: those directly in its body if the node is an
enumeration, none otherwise. -/
def heldCases (source : String) (node : Node) : List EnumCase :=
  if Kind.ofNode? source node = some .enumeration then
    ((enumerationBody? node).map (directCases source)).getD []
  else []

theorem ownCases_of_kind_ne {source : String} {node : Node} (other : node.kind ≠ "enum_entry") :
    ownCases source node = [] :=
  if_neg other

theorem ownCases_of_ofEntry {source : String} {node : Node} {cases : List EnumCase}
    (entry : node.kind = "enum_entry") (succeeded : EnumCase.ofEntry source node = .ok cases) :
    ownCases source node = cases := by
  rw [ownCases, if_pos entry, succeeded]
  rfl

theorem ofNode?_eq_enumCase_iff {source : String} {node : Node} :
    Kind.ofNode? source node = some .enumCase ↔ node.kind = "enum_entry" := by
  have never : (typeKeyword? source node).bind Kind.ofTypeKeyword? ≠ some .enumCase := by
    intro read
    simpa using kind_of_typeKeyword read
  unfold Kind.ofNode?
  split <;> simp_all

/-- Only case declarations count among the children of a body. -/
theorem flatMap_childrenOfKind (source : String) (body : Node) :
    (body.childrenOfKind "enum_entry").flatMap (ownCases source) = directCases source body := by
  rw [Node.childrenOfKind, directCases]
  induction body.children with
  | nil => rfl
  | cons child rest inductionHypothesis =>
      by_cases entry : child.kind = "enum_entry"
      · rw [List.filter_cons_of_pos (by simpa using entry), List.flatMap_cons, List.flatMap_cons,
          inductionHypothesis]
      · rw [List.filter_cons_of_neg (by simpa using entry), List.flatMap_cons,
          ownCases_of_kind_ne entry, List.nil_append, inductionHypothesis]

/-- The cases of an enumeration record are those directly in the body of its node. -/
theorem cases_of_ofNode {source : String} {node : Node} {record : Enumeration}
    (succeeded : Enumeration.ofNode source node = .ok record) :
    record.cases = ((enumerationBody? node).map (directCases source)).getD [] := by
  rcases bind_eq_ok_iff.mp succeeded with ⟨declaration, -, succeeded⟩
  rcases bind_eq_ok_iff.mp succeeded with ⟨blocks, blocksEq, built⟩
  cases built
  have joined : yieldAll (EnumCase.ofEntry source) (enumerationEntries node) =
      .ok blocks.flatten := by
    rw [yieldAll, blocksEq]
    rfl
  have entries : ∀ entry ∈ enumerationEntries node, entry.kind = "enum_entry" := by
    intro entry member
    unfold enumerationEntries at member
    cases bodyEq : enumerationBody? node with
    | none => simp [bodyEq] at member
    | some body =>
        rw [bodyEq] at member
        simpa using (List.mem_filter.mp member).2
  have read : blocks.flatten = (enumerationEntries node).flatMap (ownCases source) :=
    yieldAll_view id (ownCases source) rfl (fun _ _ => rfl)
      (fun entry member block blockEq =>
        (ownCases_of_ofEntry (entries entry member) blockEq).symm) joined
  show blocks.flatten = _
  rw [read, enumerationEntries]
  cases enumerationBody? node with
  | none => rfl
  | some body => exact flatMap_childrenOfKind source body

/-! ### Cases by collection -/

theorem case?_of_kind_ne {kind : Kind} (other : kind ≠ .enumCase) (record : kind.Record) :
    (Declaration.of kind record).case? = none := by
  cases kind with
  | enumCase => exact absurd rfl other
  | _ => rfl

theorem enumeration?_of_kind_ne {kind : Kind} (other : kind ≠ .enumeration)
    (record : kind.Record) : (Declaration.of kind record).enumeration? = none := by
  cases kind with
  | enumeration => exact absurd rfl other
  | _ => rfl

theorem case_records_of_read {source : String} {kind : Kind} {node : Node}
    {block : List Declaration} (classified : Kind.ofNode? source node = some kind)
    (succeeded : Declaration.read source kind node = .ok block) :
    block.filterMap Declaration.case? = ownCases source node := by
  rcases map_eq_ok_iff.mp succeeded with ⟨records, recordsEq, rfl⟩
  rw [List.filterMap_map]
  by_cases isCase : kind = .enumCase
  · subst isCase
    rw [ownCases_of_ofEntry (ofNode?_eq_enumCase_iff.mp classified) recordsEq]
    exact List.filterMap_some
  · rw [ownCases_of_kind_ne, List.filterMap_eq_nil_iff]
    · intro record _
      exact case?_of_kind_ne isCase record
    · intro entry
      rw [ofNode?_eq_enumCase_iff.mpr entry] at classified
      exact isCase (Option.some.inj classified).symm

theorem held_cases_of_read {source : String} {kind : Kind} {node : Node}
    {block : List Declaration} (classified : Kind.ofNode? source node = some kind)
    (succeeded : Declaration.read source kind node = .ok block) :
    (block.filterMap Declaration.enumeration?).flatMap (·.cases) = heldCases source node := by
  rcases map_eq_ok_iff.mp succeeded with ⟨records, recordsEq, rfl⟩
  rw [List.filterMap_map]
  by_cases isEnumeration : kind = .enumeration
  · subst isEnumeration
    rcases map_eq_ok_iff.mp recordsEq with ⟨record, recordEq, rfl⟩
    rw [heldCases, if_pos classified, ← cases_of_ofNode recordEq]
    exact List.append_nil _
  · have none : records.filterMap (Declaration.enumeration? ∘ Declaration.of kind) = [] := by
      rw [List.filterMap_eq_nil_iff]
      intro record _
      exact enumeration?_of_kind_ne isEnumeration record
    have held : heldCases source node = [] := by
      rw [heldCases, if_neg]
      rw [classified]
      exact fun same => isEnumeration (Option.some.inj same)
    rw [none, held]
    rfl

/-- What one node gives a collection of everything, as far as cases go. -/
theorem cases_of_contribution {source : String} {node : Node} {block : List Declaration}
    (succeeded : contribution source .any node = .ok block) :
    block.filterMap Declaration.case? = ownCases source node ∧
      (block.filterMap Declaration.enumeration?).flatMap (·.cases) = heldCases source node := by
  cases classified : Kind.ofNode? source node with
  | none =>
      have notEntry : node.kind ≠ "enum_entry" := by
        intro entry
        rw [ofNode?_eq_enumCase_iff.mpr entry] at classified
        cases classified
      have empty : block = [] := by
        rw [contribution, classified] at succeeded
        exact (Except.ok.inj succeeded).symm
      subst empty
      rw [ownCases_of_kind_ne notEntry, heldCases, classified]
      exact ⟨rfl, rfl⟩
  | some kind =>
      have read : Declaration.read source kind node = .ok block := by
        rw [contribution, classified] at succeeded
        exact succeeded
      exact ⟨case_records_of_read classified read, held_cases_of_read classified read⟩

/-- The case records of a collection, node by node. -/
theorem case_records_of_collect {source : String} {root : Node} {declarations : List Declaration}
    (succeeded : collect source .any root = .ok declarations) :
    declarations.filterMap Declaration.case? = root.preorder.flatMap (ownCases source) := by
  rw [collect_eq_yieldAll_contribution] at succeeded
  refine yieldAll_view (List.filterMap Declaration.case?) _ rfl ?_ ?_ succeeded
  · intro left right
    exact List.filterMap_append
  · intro node _ block blockEq
    exact (cases_of_contribution blockEq).1

/-- The cases of all enumeration records of a collection, node by node. -/
theorem held_cases_of_collect {source : String} {root : Node} {declarations : List Declaration}
    (succeeded : collect source .any root = .ok declarations) :
    (declarations.filterMap Declaration.enumeration?).flatMap (·.cases) =
      root.preorder.flatMap (heldCases source) := by
  rw [collect_eq_yieldAll_contribution] at succeeded
  refine yieldAll_view (fun block => (block.filterMap Declaration.enumeration?).flatMap (·.cases))
    _ rfl ?_ ?_ succeeded
  · intro left right
    simp only [List.filterMap_append, List.flatMap_append]
  · intro node _ block blockEq
    exact (cases_of_contribution blockEq).2

/-! ### Every case is counted once

A node may hold cases from two levels down: the children of the child that is its body.  The
induction therefore carries the cases directly under a node along, because the node above may claim
them, and counts what is held, what nobody holds and what is still open against the case records
strictly below.
-/

theorem mem_children_of_enumerationBody? {node body : Node}
    (selected : enumerationBody? node = some body) : body ∈ node.children := by
  simp only [enumerationBody?, Option.or_eq_some_iff] at selected
  rcases selected with (found | ⟨-, found⟩) | ⟨-, found⟩
  · exact List.mem_of_find?_eq_some found
  · exact List.mem_of_find?_eq_some found
  · exact List.mem_of_find?_eq_some found

theorem heldCases_sublist (source : String) (node : Node) :
    (heldCases source node).Sublist (node.children.flatMap (directCases source)) := by
  rw [heldCases]
  split
  · cases selected : enumerationBody? node with
    | none => exact List.nil_sublist _
    | some body =>
        have member := mem_children_of_enumerationBody? selected
        exact List.sublist_flatten_of_mem (List.mem_map_of_mem member)
  · exact List.nil_sublist _

/-- The cases two levels below a node that its record does not hold. -/
def unheldCases (source : String) (node : Node) : List EnumCase :=
  (node.children.flatMap (directCases source)).diff (heldCases source node)

/-- The cases that a view finds at several nodes, whatever their order. -/
def bag (view : Node → List EnumCase) (nodes : List Node) : Multiset EnumCase :=
  ↑(nodes.flatMap view)

theorem bag_nil (view : Node → List EnumCase) : bag view [] = 0 :=
  rfl

theorem bag_cons (view : Node → List EnumCase) (node : Node) (nodes : List Node) :
    bag view (node :: nodes) = ↑(view node) + bag view nodes := by
  rw [bag, bag, List.flatMap_cons, Multiset.coe_add]

theorem bag_append (view : Node → List EnumCase) (left right : List Node) :
    bag view (left ++ right) = bag view left + bag view right := by
  rw [bag, bag, bag, List.flatMap_append, Multiset.coe_add]

theorem held_add_unheld (source : String) (node : Node) :
    (↑(heldCases source node) + ↑(unheldCases source node) : Multiset EnumCase) =
      bag (directCases source) node.children := by
  have within : (↑(heldCases source node) : Multiset EnumCase) ≤
      bag (directCases source) node.children :=
    (heldCases_sublist source node).subperm
  rw [unheldCases, ← Multiset.coe_sub]
  rw [add_comm]
  exact Multiset.sub_add_cancel within

mutual

/-- In a subtree, the held cases, the unheld ones and those that the node above may hold are
exactly the case records below its root. -/
theorem bag_below_node (source : String) : ∀ node : Node,
    bag (heldCases source) node.preorder + bag (unheldCases source) node.preorder +
        ↑(directCases source node) =
      bag (ownCases source) (Node.preorderAll node.children)
  | .mk row children => by
      have here := held_add_unheld source (.mk row children)
      have below := bag_below_nodes source children
      rw [Node.preorder, bag_cons, bag_cons]
      calc
        _ = (↑(heldCases source (.mk row children)) + ↑(unheldCases source (.mk row children))) +
              (bag (heldCases source) (Node.preorderAll children) +
                bag (unheldCases source) (Node.preorderAll children) +
                bag (ownCases source) children) := by
            rw [directCases, Node.children, bag]
            abel
        _ = _ := by
            rw [here]
            exact (add_comm _ _).trans below

theorem bag_below_nodes (source : String) : ∀ nodes : List Node,
    bag (heldCases source) (Node.preorderAll nodes) +
          bag (unheldCases source) (Node.preorderAll nodes) + bag (ownCases source) nodes +
        bag (directCases source) nodes =
      bag (ownCases source) (Node.preorderAll nodes)
  | [] => by
      simp [Node.preorderAll, bag_nil]
  | node :: nodes => by
      have head := bag_below_node source node
      have tail := bag_below_nodes source nodes
      rw [Node.preorderAll, bag_append, bag_append, bag_append, bag_cons, bag_cons, ← tail,
        Node.preorder_eq node, bag_cons (ownCases source), ← head, Node.preorder_eq node]
      abel

end

/-- The case records of a tree are the held cases, the unheld ones and those at its top. -/
theorem bag_own_preorder (source : String) (root : Node) :
    bag (ownCases source) root.preorder =
      bag (heldCases source) root.preorder + bag (unheldCases source) root.preorder +
        (↑(directCases source root) + ↑(ownCases source root)) := by
  rw [Node.preorder_eq, bag_cons (ownCases source), ← bag_below_node source root,
    Node.preorder_eq]
  abel

/-! ### Trees whose cases all stand in the body of an enumeration -/

/-- The number of the child that is the body of an enumeration node: the one found under the field
`body`, else the first of either kind of body. -/
def enumerationBodyIndex? (node : Node) : Option Nat :=
  ((node.children.findIdx? fun child => child.row.lookups.contains "body").or
    (node.children.findIdx? (·.kind == "enum_class_body"))).or
    (node.children.findIdx? (·.kind == "class_body"))

/-- Every case declaration of the tree is a child of the body of an enumeration node. -/
def CasesHoused (source : String) (root : Node) : Prop :=
  ∀ address entry, root.at? address = some entry → entry.kind = "enum_entry" →
    ∃ above body index owner, address = above ++ [body, index] ∧ root.at? above = some owner ∧
      Kind.ofNode? source owner = some .enumeration ∧ enumerationBodyIndex? owner = some body

/-- The first of several searches that finds anything finds the same by number as by node. -/
theorem or_find?_eq_bind_or_findIdx? {nodes : List Node} {one : Option Node} {number : Option Nat}
    (same : one = number.bind (nodes[·]?)) (found : ∀ index, number = some index →
      index < nodes.length) (other : Node → Bool) :
    one.or (nodes.find? other) = (number.or (nodes.findIdx? other)).bind (nodes[·]?) ∧
      ∀ index, number.or (nodes.findIdx? other) = some index → index < nodes.length := by
  cases number with
  | none =>
      subst same
      refine ⟨List.find?_eq_bind_findIdx?_getElem?, ?_⟩
      intro index indexEq
      exact (List.findIdx?_eq_some_iff_getElem.mp indexEq).1
  | some index =>
      have inside := found index rfl
      simp only [Option.bind_some, List.getElem?_eq_getElem inside] at same
      subst same
      refine ⟨by simp [List.getElem?_eq_getElem inside], ?_⟩
      intro other otherEq
      exact found other otherEq

theorem enumerationBody?_eq (node : Node) :
    enumerationBody? node = (enumerationBodyIndex? node).bind (node.children[·]?) := by
  have byField : node.lookup? "body" =
      (node.children.findIdx? fun child => child.row.lookups.contains "body").bind
        (node.children[·]?) :=
    List.find?_eq_bind_findIdx?_getElem?
  obtain ⟨byKind, inside⟩ := or_find?_eq_bind_or_findIdx? byField
    (fun index indexEq => (List.findIdx?_eq_some_iff_getElem.mp indexEq).1)
    (·.kind == "enum_class_body")
  exact (or_find?_eq_bind_or_findIdx? byKind inside (·.kind == "class_body")).1

theorem flatMap_eq_of_only {nodes : List Node} {number : Nat} {only : Node}
    {view : Node → List EnumCase} (placed : nodes[number]? = some only)
    (others : ∀ index node, nodes[index]? = some node → index ≠ number → view node = []) :
    nodes.flatMap view = view only := by
  induction nodes generalizing number with
  | nil => simp at placed
  | cons first rest inductionHypothesis =>
      rw [List.flatMap_cons]
      cases number with
      | zero =>
          obtain rfl : first = only := by simpa using placed
          have empty : rest.flatMap view = [] := by
            rw [List.flatMap_eq_nil_iff]
            intro node member
            rcases List.mem_iff_getElem?.mp member with ⟨index, indexEq⟩
            exact others (index + 1) node (by simpa using indexEq) (by simp)
          rw [empty, List.append_nil]
      | succ number =>
          rw [others 0 first rfl (by simp), List.nil_append]
          refine inductionHypothesis (by simpa using placed) ?_
          intro index node indexEq different
          exact others (index + 1) node (by simpa using indexEq) (by simpa using different)

theorem exists_entry_of_directCases_ne_nil {source : String} {node : Node}
    (found : directCases source node ≠ []) :
    ∃ (index : Nat) (entry : Node), node.children[index]? = some entry ∧
      entry.kind = "enum_entry" := by
  rw [directCases, ne_eq, List.flatMap_eq_nil_iff] at found
  push Not at found
  rcases found with ⟨entry, member, own⟩
  rcases List.mem_iff_getElem?.mp member with ⟨index, indexEq⟩
  refine ⟨index, entry, indexEq, ?_⟩
  by_contra other
  exact own (ownCases_of_kind_ne other)

/-- In a housed tree only the body of an enumeration has cases directly in it. -/
theorem owner_of_directCases_ne_nil {source : String} {root : Node}
    (housed : CasesHoused source root) {above : List Nat} {node : Node}
    (placed : root.at? above = some node) {number : Nat} {child : Node}
    (childEq : node.children[number]? = some child) (found : directCases source child ≠ []) :
    Kind.ofNode? source node = some .enumeration ∧ enumerationBodyIndex? node = some number := by
  rcases exists_entry_of_directCases_ne_nil found with ⟨index, entry, entryEq, isEntry⟩
  have entryPlaced : root.at? (above ++ [number, index]) = some entry := by
    rw [Node.at?_append, placed]
    simp [Node.at?, childEq, entryEq]
  obtain ⟨front, body, last, owner, split, ownerPlaced, classified, selected⟩ :=
    housed _ _ entryPlaced isEntry
  rcases List.append_inj' split (by rfl) with ⟨rfl, ends⟩
  obtain ⟨rfl, -⟩ : number = body ∧ index = last := by simpa using ends
  obtain rfl : node = owner := by simpa [placed] using ownerPlaced
  exact ⟨classified, selected⟩

/-- In a housed tree every enumeration holds all cases two levels below it. -/
theorem unheldCases_of_housed {source : String} {root : Node} (housed : CasesHoused source root)
    {node : Node} (member : node ∈ root.preorder) : unheldCases source node = [] := by
  rcases Node.mem_preorder_iff.mp member with ⟨above, placed⟩
  have elsewhere : ∀ index child, node.children[index]? = some child →
      ¬ (Kind.ofNode? source node = some .enumeration ∧
        enumerationBodyIndex? node = some index) → directCases source child = [] := by
    intro index child childEq other
    by_contra found
    exact other (owner_of_directCases_ne_nil housed placed childEq found)
  have all : node.children.flatMap (directCases source) = heldCases source node := by
    by_cases owns : Kind.ofNode? source node = some .enumeration ∧
        (enumerationBody? node).isSome
    · rcases owns with ⟨classified, hasBody⟩
      rcases Option.isSome_iff_exists.mp hasBody with ⟨body, selected⟩
      obtain ⟨number, numberEq, bodyEq⟩ :=
        Option.bind_eq_some_iff.mp ((enumerationBody?_eq node).symm.trans selected)
      rw [heldCases, if_pos classified, selected]
      refine flatMap_eq_of_only bodyEq ?_
      intro index child childEq different
      apply elsewhere index child childEq
      rintro ⟨-, indexEq⟩
      exact different (Option.some.inj (indexEq.symm.trans numberEq))
    · have nothing : heldCases source node = [] := by
        rw [heldCases]
        split
        · next classified =>
            have noBody : enumerationBody? node = none := by
              simpa [classified] using owns
            rw [noBody]
            rfl
        · rfl
      rw [nothing, List.flatMap_eq_nil_iff]
      intro child childMember
      rcases List.mem_iff_getElem?.mp childMember with ⟨index, childEq⟩
      apply elsewhere index child childEq
      rintro ⟨classified, numberEq⟩
      apply owns
      refine ⟨classified, ?_⟩
      rw [enumerationBody?_eq, numberEq]
      simp [childEq]
  have zero : (↑(unheldCases source node) : Multiset EnumCase) = 0 := by
    have split := held_add_unheld source node
    rw [bag, all] at split
    exact add_eq_left.mp split
  exact (Multiset.coe_eq_zero _).mp zero

theorem top_of_housed {source : String} {root : Node} (housed : CasesHoused source root) :
    ownCases source root = [] ∧ directCases source root = [] := by
  have deep : ∀ address entry, root.at? address = some entry → address.length < 2 →
      entry.kind ≠ "enum_entry" := by
    intro address entry placed short isEntry
    rcases housed address entry placed isEntry with ⟨above, body, index, owner, rfl, -⟩
    simp only [List.length_append, List.length_cons, List.length_nil] at short
    omega
  constructor
  · exact ownCases_of_kind_ne (deep [] root rfl (by simp))
  · by_contra found
    rcases exists_entry_of_directCases_ne_nil found with ⟨index, entry, entryEq, isEntry⟩
    refine deep [index] entry ?_ (by simp) isEntry
    simp [Node.at?, entryEq]

/-! ### Agreement -/

/-- The cases two levels below a node stand in order among the case records of its subtree. -/
theorem flatMap_directCases_sublist (source : String) (node : Node) :
    (node.children.flatMap (directCases source)).Sublist
      (node.preorder.flatMap (ownCases source)) := by
  have each : ∀ child ∈ node.children, (directCases source child).Sublist
      (child.preorder.flatMap (ownCases source)) := by
    intro child _
    rw [directCases, Node.preorder_eq]
    exact ((Node.sublist_preorderAll child.children).cons child).flatMap (ownCases source)
  refine (List.Sublist.flatMap_right _ each).trans ?_
  rw [Node.preorder_eq, ← List.flatMap_assoc, ← Node.preorderAll_eq_flatMap]
  exact (List.sublist_cons_self _ _).flatMap (ownCases source)

/-- The record of an enumeration node is collected, and its cases stand in order among the case
records of the node's own subtree. -/
theorem cases_sublist_of_collect {source : String} {root node : Node}
    {declarations : List Declaration} (succeeded : collect source .any root = .ok declarations)
    (member : node ∈ root.preorder)
    (classified : Kind.ofNode? source node = some .enumeration) :
    ∃ record inside, Enumeration.ofNode source node = .ok record ∧
      .enumeration record ∈ declarations ∧
      collect source .any node = .ok inside ∧
      record.cases.Sublist (inside.filterMap Declaration.case?) := by
  rcases collect_subtree succeeded member with ⟨inside, insideEq⟩
  rw [collect_eq_yieldAll_contribution] at succeeded
  rcases yieldAll_succeeds_iff.mp ⟨_, succeeded⟩ node member with ⟨block, blockEq⟩
  have read : Declaration.read source .enumeration node = .ok block := by
    rw [contribution, classified] at blockEq
    exact blockEq
  rcases map_eq_ok_iff.mp read with ⟨records, recordsEq, rfl⟩
  rcases map_eq_ok_iff.mp recordsEq with ⟨record, recordEq, rfl⟩
  refine ⟨record, inside, recordEq, ?_, insideEq, ?_⟩
  · exact mem_of_yieldAll succeeded member blockEq List.mem_cons_self
  · have held : record.cases = heldCases source node := by
      rw [heldCases, if_pos classified, cases_of_ofNode recordEq]
    rw [held, case_records_of_collect insideEq]
    exact (heldCases_sublist source node).trans (flatMap_directCases_sublist source node)

/-- Whenever everything in a tree can be collected, the cases of all enumeration records together
are among the case records, each for a different one.  The cases of a single enumeration stand in
the same order among the case records of its own subtree.  When every case declaration stands in
the body of an enumeration, the two are the same cases. -/
theorem cases_of_enumerations_le_case_records (source : String) (root : Node)
    (declarations : List Declaration)
    (succeeded : collect source .any root = .ok declarations) :
    (↑((declarations.filterMap Declaration.enumeration?).flatMap (·.cases)) :
        Multiset EnumCase) ≤ ↑(declarations.filterMap Declaration.case?) ∧
    (∀ node ∈ root.preorder, Kind.ofNode? source node = some .enumeration →
      ∃ record inside, Enumeration.ofNode source node = .ok record ∧
        .enumeration record ∈ declarations ∧
        collect source .any node = .ok inside ∧
        record.cases.Sublist (inside.filterMap Declaration.case?)) ∧
    (CasesHoused source root →
      (↑((declarations.filterMap Declaration.enumeration?).flatMap (·.cases)) :
        Multiset EnumCase) = ↑(declarations.filterMap Declaration.case?)) := by
  have records : (↑(declarations.filterMap Declaration.case?) : Multiset EnumCase) =
      bag (ownCases source) root.preorder := by
    rw [case_records_of_collect succeeded, bag]
  have held : (↑((declarations.filterMap Declaration.enumeration?).flatMap (·.cases)) :
      Multiset EnumCase) = bag (heldCases source) root.preorder := by
    rw [held_cases_of_collect succeeded, bag]
  rw [records, held, bag_own_preorder]
  refine ⟨?_, ?_, ?_⟩
  · rw [add_assoc]
    exact le_self_add
  · intro node member classified
    exact cases_sublist_of_collect succeeded member classified
  · intro housed
    have unheld : bag (unheldCases source) root.preorder = 0 := by
      rw [bag, Multiset.coe_eq_zero, List.flatMap_eq_nil_iff]
      intro node member
      exact unheldCases_of_housed housed member
    rcases top_of_housed housed with ⟨own, direct⟩
    rw [unheld, own, direct]
    simp

/-- The node of `case` and a name of one letter. -/
def caseOfLetter (start : Nat) : Node :=
  .rule "enum_entry" start (start + 6) []
    [.token "case" start (start + 4) [], .rule "simple_identifier" (start + 5) (start + 6) [] []]

/-- The tree of `enum A { case x enum B { case y } case z }`, where a case of the inner enumeration
stands between two of the outer one. -/
def nestedEnumerations : Node :=
  .rule "source_file" 0 42 []
    [.rule "class_declaration" 0 42 []
      [.token "enum" 0 4 ["declaration_kind"],
       .rule "type_identifier" 5 6 ["name"] [],
       .rule "enum_class_body" 7 42 ["body"]
        [caseOfLetter 9,
         .rule "class_declaration" 16 33 []
          [.token "enum" 16 20 ["declaration_kind"],
           .rule "type_identifier" 21 22 ["name"] [],
           .rule "enum_class_body" 23 33 ["body"] [caseOfLetter 25]],
         caseOfLetter 34]]]

/-- The text of `nestedEnumerations`. -/
def nestedEnumerationsText : String :=
  "enum A { case x enum B { case y } case z }"

/-- A case with a name and nothing else. -/
def bareCase (name : String) : EnumCase :=
  { attributes := [], modifiers := [], keyword := "case", name, associatedValue := none,
    rawValue := none }

/-- An enumeration with a name, cases and nothing else. -/
def bareEnumeration (name : String) (cases : List EnumCase) : Enumeration :=
  { attributes := [], modifiers := [], keyword := "enum", name, inheritance := [],
    genericParameters := [], genericRequirements := [], cases }

/-- What is collected from `nestedEnumerations`. -/
theorem collect_nestedEnumerations :
    collect nestedEnumerationsText .any nestedEnumerations =
      .ok
        [.enumeration (bareEnumeration "A" [bareCase "x", bareCase "z"]),
         .enumCase (bareCase "x"),
         .enumeration (bareEnumeration "B" [bareCase "y"]),
         .enumCase (bareCase "y"),
         .enumCase (bareCase "z")] := by
  decide +kernel

/-- The walk meets the cases as `x`, `y`, `z`, the two enumerations hold `x`, `z` and `y`. -/
theorem cases_of_nestedEnumerations :
    collect nestedEnumerationsText .any nestedEnumerations =
      .ok
        [.enumeration (bareEnumeration "A" [bareCase "x", bareCase "z"]),
         .enumCase (bareCase "x"),
         .enumeration (bareEnumeration "B" [bareCase "y"]),
         .enumCase (bareCase "y"),
         .enumCase (bareCase "z")] ∧
    CasesHoused nestedEnumerationsText nestedEnumerations ∧
    (↑[bareCase "x", bareCase "z", bareCase "y"] : Multiset EnumCase) =
      ↑[bareCase "x", bareCase "y", bareCase "z"] := by
  have entries : ∀ address ∈ nestedEnumerations.addresses,
      (nestedEnumerations.at? address).any (·.kind == "enum_entry") = true →
        address = [0] ++ [2, 0] ∨ address = [0, 2, 1] ++ [2, 0] ∨ address = [0] ++ [2, 2] := by
    decide +kernel
  have housed : CasesHoused nestedEnumerationsText nestedEnumerations := by
    intro address entry placed isEntry
    have listed : address ∈ nestedEnumerations.addresses := by
      rw [Node.mem_addresses_iff, placed]
      rfl
    rcases entries address listed (by simp [placed, isEntry]) with rfl | rfl | rfl
    · exact ⟨[0], 2, 0, _, rfl, rfl, by decide +kernel, by decide +kernel⟩
    · exact ⟨[0, 2, 1], 2, 0, _, rfl, rfl, by decide +kernel, by decide +kernel⟩
    · exact ⟨[0], 2, 2, _, rfl, rfl, by decide +kernel, by decide +kernel⟩
  refine ⟨collect_nestedEnumerations, housed, ?_⟩
  exact (cases_of_enumerations_le_case_records _ _ _ collect_nestedEnumerations).2.2 housed

end Synopsis
