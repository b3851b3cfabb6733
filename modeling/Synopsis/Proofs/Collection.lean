/-
Module: Synopsis.Proofs.Collection
Purpose: What a collection is made of: the records of the nodes that the selector takes, in
  pre-order, or the fault of the first such node that cannot be read.  Collecting the records of one
  kind and collecting declarations of that kind only are the same.
Main exports:
  Selector.take?, taken, collect_eq_yieldAll_contribution, collect_reads_taken_nodes_in_preorder,
  exists_read_of_mem_collect, read_of_take?_of_collect, collect_subtree,
  collect_filters_wider_collection, collect_only_wraps_collectKind
-/
import Synopsis.Proofs.Preorder

namespace Synopsis

/-! ### The nodes that a selector takes -/

/-- The kind as which a selector takes a node, if it takes the node. -/
def Selector.take? (source : String) (selector : Selector) (node : Node) : Option Kind :=
  (Kind.ofNode? source node).filter selector.accepts

/-- The nodes that a selector takes, with their kinds, in pre-order. -/
def taken (source : String) (selector : Selector) (root : Node) : List (Kind × Node) :=
  root.preorder.filterMap fun node => (selector.take? source node).map (·, node)

/-- A collection is the run of all contributions in pre-order. -/
theorem collect_eq_yieldAll_contribution (source : String) (selector : Selector) (root : Node) :
    collect source selector root = yieldAll (contribution source selector) root.preorder :=
  gather_eq_yieldAll_preorder _ _

theorem contribution_of_take?_eq_none {source : String} {selector : Selector} {node : Node}
    (left : selector.take? source node = none) : contribution source selector node = .ok [] := by
  rw [Selector.take?, Option.filter_eq_none_iff] at left
  rw [contribution]
  cases kindEq : Kind.ofNode? source node with
  | none => rfl
  | some kind => simp [left kind kindEq]

theorem contribution_of_take? {source : String} {selector : Selector} {node : Node} {kind : Kind}
    (kept : selector.take? source node = some kind) :
    contribution source selector node = Declaration.read source kind node := by
  rw [Selector.take?, Option.filter_eq_some_iff] at kept
  simp [contribution, kept.1, kept.2]

/-- Nodes that the selector leaves out add nothing to a run of contributions. -/
theorem yieldAll_contribution (source : String) (selector : Selector) (nodes : List Node) :
    yieldAll (contribution source selector) nodes =
      yieldAll (fun pair => Declaration.read source pair.1 pair.2)
        (nodes.filterMap fun node => (selector.take? source node).map (·, node)) := by
  induction nodes with
  | nil => rfl
  | cons node rest inductionHypothesis =>
      rw [yieldAll_cons, inductionHypothesis]
      cases kept : selector.take? source node with
      | none =>
          rw [contribution_of_take?_eq_none kept, List.filterMap_cons_none (by rw [kept]; rfl)]
          cases yieldAll _ _ <;> rfl
      | some kind =>
          rw [contribution_of_take? kept, List.filterMap_cons_some (by rw [kept]; rfl),
            yieldAll_cons]

theorem collect_eq_yieldAll_taken (source : String) (selector : Selector) (root : Node) :
    collect source selector root =
      yieldAll (fun pair => Declaration.read source pair.1 pair.2)
        (taken source selector root) := by
  rw [collect_eq_yieldAll_contribution, yieldAll_contribution, taken]

/-- The cursor meets every node of the tree exactly once and in pre-order.  A collection succeeds
exactly when every node that the selector takes can be read, with their records joined in that
order, and fails exactly with the fault of the first taken node that cannot be read. -/
theorem collect_reads_taken_nodes_in_preorder (source : String) (selector : Selector)
    (root : Node) :
    root.ListsOnce root.preorder ∧
    (∀ declarations, collect source selector root = .ok declarations ↔
      ∃ blocks,
        List.Forall₂ (fun pair block => Declaration.read source pair.1 pair.2 = .ok block)
          (taken source selector root) blocks ∧
        blocks.flatten = declarations) ∧
    (∀ fault, collect source selector root = .error fault ↔
      ∃ before pair after, taken source selector root = before ++ pair :: after ∧
        (∀ earlier ∈ before, ∃ block, Declaration.read source earlier.1 earlier.2 = .ok block) ∧
        Declaration.read source pair.1 pair.2 = .error fault) := by
  rw [collect_eq_yieldAll_taken]
  refine ⟨Node.listsOnce_preorder root, ?_, ?_⟩
  · intro declarations
    exact yieldAll_eq_ok_iff
  · intro fault
    exact yieldAll_eq_error_iff

/-- Every collected declaration was read from a node that the selector takes. -/
theorem exists_read_of_mem_collect {source : String} {selector : Selector} {root : Node}
    {declarations : List Declaration} {declaration : Declaration}
    (succeeded : collect source selector root = .ok declarations)
    (member : declaration ∈ declarations) :
    ∃ node ∈ root.preorder, ∃ kind block, selector.take? source node = some kind ∧
      Declaration.read source kind node = .ok block ∧ declaration ∈ block := by
  rw [collect_eq_yieldAll_contribution] at succeeded
  rcases exists_of_mem_yieldAll succeeded member with ⟨node, inside, block, blockEq, inBlock⟩
  cases kept : selector.take? source node with
  | none =>
      rw [contribution_of_take?_eq_none kept] at blockEq
      cases blockEq
      simp at inBlock
  | some kind =>
      rw [contribution_of_take? kept] at blockEq
      exact ⟨node, inside, kind, block, kept, blockEq, inBlock⟩

/-- A node that the selector takes can be read wherever the tree can be collected, and all its
declarations are collected. -/
theorem read_of_take?_of_collect {source : String} {selector : Selector} {root node : Node}
    {kind : Kind} {declarations : List Declaration}
    (succeeded : collect source selector root = .ok declarations)
    (inside : node ∈ root.preorder) (kept : selector.take? source node = some kind) :
    ∃ block, Declaration.read source kind node = .ok block ∧
      ∀ declaration ∈ block, declaration ∈ declarations := by
  rw [collect_eq_yieldAll_contribution] at succeeded
  rcases yieldAll_succeeds_iff.mp ⟨declarations, succeeded⟩ node inside with ⟨block, blockEq⟩
  refine ⟨block, (contribution_of_take? kept) ▸ blockEq, ?_⟩
  intro declaration inBlock
  exact mem_of_yieldAll succeeded inside blockEq inBlock

/-- Where a tree can be collected, each of its subtrees can be collected on its own. -/
theorem collect_subtree {source : String} {selector : Selector} {root node : Node}
    {declarations : List Declaration} (succeeded : collect source selector root = .ok declarations)
    (member : node ∈ root.preorder) : ∃ inside, collect source selector node = .ok inside := by
  rw [collect_eq_yieldAll_contribution] at succeeded ⊢
  have every := yieldAll_succeeds_iff.mp ⟨declarations, succeeded⟩
  apply yieldAll_succeeds_iff.mpr
  intro inner innerMember
  exact every inner ((Node.preorder_sublist_of_mem member).subset innerMember)

/-- The keyword of a class declaration node introduces only these kinds. -/
theorem kind_of_typeKeyword {source : String} {node : Node} {kind : Kind}
    (read : (typeKeyword? source node).bind Kind.ofTypeKeyword? = some kind) :
    kind ∈ [.enumeration, .structType, .classType, .extension] := by
  rcases Option.bind_eq_some_iff.mp read with ⟨keyword, -, keywordEq⟩
  unfold Kind.ofTypeKeyword? at keywordEq
  split at keywordEq <;> simp_all

/-! ### Narrower and wider selectors

Two runs over the same tree stop at different nodes when they fail, so the runs are compared node
by node: what the narrower selector gets from a node is what the wider one gets from it, filtered.
-/

/-- Every record that is read from a node has the kind the node was read as. -/
theorem kind_of_mem_read {source : String} {kind : Kind} {node : Node}
    {declarations : List Declaration}
    (succeeded : Declaration.read source kind node = .ok declarations) :
    ∀ declaration ∈ declarations, declaration.kind = kind := by
  rcases map_eq_ok_iff.mp succeeded with ⟨records, -, rfl⟩
  intro declaration member
  rcases List.mem_map.mp member with ⟨record, -, rfl⟩
  exact Declaration.kind_of kind record

/-- The selector `narrow` accepts only what `wide` accepts. -/
def Selector.Within (narrow wide : Selector) : Prop :=
  ∀ kind, narrow.accepts kind = true → wide.accepts kind = true

/-- One node gives the narrower selector what it gives the wider one, filtered. -/
theorem contribution_of_within {source : String} {narrow wide : Selector}
    (within : narrow.Within wide) {node : Node} {declarations : List Declaration}
    (succeeded : contribution source wide node = .ok declarations) :
    contribution source narrow node =
      .ok (declarations.filter fun declaration => narrow.accepts declaration.kind) := by
  cases keptWide : wide.take? source node with
  | none =>
      have keptNarrow : narrow.take? source node = none := by
        rw [Selector.take?, Option.filter_eq_none_iff] at keptWide ⊢
        intro kind kindEq accepted
        exact keptWide kind kindEq (within kind accepted)
      rw [contribution_of_take?_eq_none keptWide] at succeeded
      cases succeeded
      rw [contribution_of_take?_eq_none keptNarrow]
      rfl
  | some kind =>
      rw [contribution_of_take? keptWide] at succeeded
      have sameKind := kind_of_mem_read succeeded
      rw [Selector.take?, Option.filter_eq_some_iff] at keptWide
      cases accepted : narrow.accepts kind with
      | true =>
          have keptNarrow : narrow.take? source node = some kind := by
            rw [Selector.take?, Option.filter_eq_some_iff]
            exact ⟨keptWide.1, accepted⟩
          rw [contribution_of_take? keptNarrow, succeeded, List.filter_eq_self.mpr]
          intro declaration member
          rw [sameKind declaration member, accepted]
      | false =>
          have keptNarrow : narrow.take? source node = none := by
            simp [Selector.take?, keptWide.1, accepted]
          rw [contribution_of_take?_eq_none keptNarrow, List.filter_eq_nil_iff.mpr]
          intro declaration member
          rw [sameKind declaration member, accepted]
          exact Bool.false_ne_true

/-- A whole run gives the narrower selector what it gives the wider one, filtered. -/
theorem yieldAll_contribution_of_within {source : String} {narrow wide : Selector}
    (within : narrow.Within wide) {nodes : List Node} {declarations : List Declaration}
    (succeeded : yieldAll (contribution source wide) nodes = .ok declarations) :
    yieldAll (contribution source narrow) nodes =
      .ok (declarations.filter fun declaration => narrow.accepts declaration.kind) := by
  induction nodes generalizing declarations with
  | nil =>
      cases succeeded
      rfl
  | cons node rest inductionHypothesis =>
      rw [yieldAll_cons, bind_eq_ok_iff] at succeeded
      rcases succeeded with ⟨first, firstEq, succeeded⟩
      rcases bind_eq_ok_iff.mp succeeded with ⟨others, othersEq, joined⟩
      cases joined
      rw [yieldAll_cons, contribution_of_within within firstEq, inductionHypothesis othersEq,
        List.filter_append]
      rfl

theorem collect_of_within {source : String} {narrow wide : Selector} (within : narrow.Within wide)
    {root : Node} {declarations : List Declaration}
    (succeeded : collect source wide root = .ok declarations) :
    collect source narrow root =
      .ok (declarations.filter fun declaration => narrow.accepts declaration.kind) := by
  rw [collect_eq_yieldAll_contribution] at succeeded ⊢
  exact yieldAll_contribution_of_within within succeeded

/-- Only the accepted kinds of a selector count. -/
theorem collect_congr_accepts {source : String} {one other : Selector} {root : Node}
    (same : ∀ kind, one.accepts kind = other.accepts kind) :
    collect source one root = collect source other root := by
  have contributes : contribution source one = contribution source other := by
    funext node
    simp only [contribution, same]
  rw [collect, contributes, collect]

/-- A selector that accepts nothing collects nothing and never fails. -/
theorem collect_anyOf_nil (source : String) (root : Node) :
    collect source (.anyOf []) root = .ok [] := by
  have leaves : ∀ node, Selector.take? source (.anyOf []) node = none := by
    intro node
    rw [Selector.take?, Option.filter_eq_none_iff]
    intro kind _
    simp [Selector.accepts]
  have untaken : taken source (.anyOf []) root = [] := by
    rw [taken, List.filterMap_eq_nil_iff]
    intro node _
    rw [leaves node]
    rfl
  rw [collect_eq_yieldAll_taken, untaken, yieldAll_nil]

/-- A narrower selector collects the records of a wider one whose kinds it accepts, in the same
order, and fails only where the wider one fails.  Selectors that accept the same kinds collect the
same, however they are written, and a selector without kinds collects nothing from any tree. -/
theorem collect_filters_wider_collection (source : String) (root : Node) :
    (∀ narrow wide : Selector, narrow.Within wide →
      (∀ declarations, collect source wide root = .ok declarations →
        collect source narrow root =
          .ok (declarations.filter fun declaration => narrow.accepts declaration.kind)) ∧
      (∀ fault, collect source narrow root = .error fault →
        ∃ other, collect source wide root = .error other)) ∧
    (∀ one other : Selector, (∀ kind, one.accepts kind = other.accepts kind) →
      collect source one root = collect source other root) ∧
    (∀ kind, collect source (.only kind) root = collect source (.anyOf [kind]) root ∧
      collect source (.anyOf [kind]) root = collect source (.anyOf [kind, kind]) root) ∧
    collect source (.anyOf Kind.all) root = collect source .any root ∧
    collect source (.anyOf []) root = .ok [] := by
  refine ⟨?_, ?_, ?_, ?_, collect_anyOf_nil source root⟩
  · intro narrow wide within
    refine ⟨fun declarations succeeded => collect_of_within within succeeded, ?_⟩
    intro fault failed
    cases wideEq : collect source wide root with
    | error other => exact ⟨other, rfl⟩
    | ok declarations =>
        rw [collect_of_within within wideEq] at failed
        cases failed
  · intro one other same
    exact collect_congr_accepts same
  · intro kind
    constructor
    · apply collect_congr_accepts
      intro candidate
      rw [Bool.eq_iff_iff]
      simp only [Selector.accepts, beq_iff_eq, List.contains_iff_mem, List.mem_singleton]
      exact eq_comm
    · apply collect_congr_accepts
      intro candidate
      rw [Bool.eq_iff_iff]
      simp [Selector.accepts]
  · apply collect_congr_accepts
    intro kind
    cases kind <;> rfl

/-- A grammar node that the given look-ups find.  A traversal reports the first of them. -/
def Node.rule (kind : String) (start stop : Nat) (lookups : List String) (children : List Node) :
    Node :=
  .mk { kind, named := true, field := lookups.head?, start, stop, lookups } children

/-- A token spelled by its kind. -/
def Node.token (kind : String) (start stop : Nat) (lookups : List String) : Node :=
  .mk { kind, named := false, field := lookups.head?, start, stop, lookups } []

/-- The tree of `struct S { deinit { } }`. -/
def structWithDeinit : Node :=
  .rule "source_file" 0 23 []
    [.rule "class_declaration" 0 23 []
      [.token "struct" 0 6 ["declaration_kind"],
       .rule "type_identifier" 7 8 ["name"] [],
       .rule "class_body" 9 23 ["body"] [.rule "deinit_declaration" 11 21 [] []]]]

/-- The inner declaration is all that is left when only its kind is asked for. -/
theorem collect_filters_structWithDeinit :
    Selector.Within (.only .deinitializer) .any ∧
    (∃ outer, collect "struct S { deinit { } }" .any structWithDeinit =
      .ok [outer, .deinitializer { attributes := [], modifiers := [], keyword := "deinit" }]) ∧
    collect "struct S { deinit { } }" (.only .deinitializer) structWithDeinit =
      .ok [.deinitializer { attributes := [], modifiers := [], keyword := "deinit" }] := by
  have within : Selector.Within (.only .deinitializer) .any := fun _ _ => rfl
  have wide : collect "struct S { deinit { } }" .any structWithDeinit =
      .ok
        [.structType
          { attributes := [], modifiers := [], keyword := "struct", name := "S",
            inheritance := [], genericParameters := [], genericRequirements := [] },
         .deinitializer { attributes := [], modifiers := [], keyword := "deinit" }] := by
    decide +kernel
  refine ⟨within, ⟨_, wide⟩, ?_⟩
  exact ((collect_filters_wider_collection _ _).1 _ _ within).1 _ wide

/-! ### Records of one kind

There are two walks for the declarations of one kind.  One keeps the type of the records and asks
only whether a node is of that kind; the other goes through the selector and the table of all kinds
and gives declarations.
-/

/-- A wrapped record can be unwrapped: no two records of a kind give the same declaration. -/
theorem Declaration.of_injective (kind : Kind) : Function.Injective (Declaration.of kind) := by
  intro left right same
  cases kind <;> injection same

/-- One node gives both walks the same, up to the wrapping of its records. -/
theorem contribution_only (source : String) (kind : Kind) (node : Node) :
    contribution source (.only kind) node =
      (if Kind.ofNode? source node = some kind then kind.read source node else .ok []).map
        (List.map (Declaration.of kind)) := by
  by_cases classified : Kind.ofNode? source node = some kind
  · have kept : Selector.take? source (.only kind) node = some kind := by
      simp [Selector.take?, classified, Selector.accepts]
    rw [contribution_of_take? kept, if_pos classified, Declaration.read]
  · have left : Selector.take? source (.only kind) node = none := by
      rw [Selector.take?, Option.filter_eq_none_iff]
      intro other otherEq accepted
      rw [Selector.accepts, beq_iff_eq] at accepted
      exact classified (accepted ▸ otherEq)
    rw [contribution_of_take?_eq_none left, if_neg classified]
    rfl

theorem collect_only_eq_map (source : String) (kind : Kind) (root : Node) :
    collect source (.only kind) root =
      (collectKind source kind root).map (List.map (Declaration.of kind)) := by
  rw [collect_eq_yieldAll_contribution, collectKind, gather_eq_yieldAll_preorder, ← yieldAll_map]
  exact congrArg (yieldAll · root.preorder) (funext (contribution_only source kind))

/-- The walk for the records of one kind and the walk with the selector for that kind end with the
same fault, or both succeed and the declarations are the records in the same order, each wrapped as
a declaration of its own kind.  The wrapping loses nothing. -/
theorem collect_only_wraps_collectKind (source : String) (kind : Kind) (root : Node) :
    ((∃ fault, collectKind source kind root = .error fault ∧
        collect source (.only kind) root = .error fault) ∨
      ∃ records, collectKind source kind root = .ok records ∧
        collect source (.only kind) root = .ok (records.map (Declaration.of kind))) ∧
    (∀ record : kind.Record, (Declaration.of kind record).kind = kind) ∧
    Function.Injective (Declaration.of kind) := by
  refine ⟨?_, Declaration.kind_of kind, Declaration.of_injective kind⟩
  rw [collect_only_eq_map]
  cases collectKind source kind root with
  | error fault => exact Or.inl ⟨fault, rfl, rfl⟩
  | ok records => exact Or.inr ⟨records, rfl, rfl⟩

end Synopsis
