/-
Module: Synopsis.Proofs.CorrespondingCollections
Purpose: Trees that look alike give the same collections.  When all children correspond, those of
  bodies too, then so do the nodes of the two trees in pre-order, and each gives the same records.
Main exports:
  Thorough, Thorough.preorder_interleaved, Thorough.collect_eq
-/
import Synopsis.Proofs.Collection
import Synopsis.Proofs.CorrespondingReadings

namespace Synopsis

universe u v w

theorem Interleaved.with_mem {α : Type u} {Extra : α → Prop} {R : α → α → Prop}
    {lefts rights : List α} (related : Interleaved Extra R lefts rights) :
    Interleaved Extra (fun left right => R left right ∧ left ∈ lefts) lefts rights := by
  induction related with
  | nil => exact .nil
  | cons head _ inductionHypothesis =>
      refine .cons ⟨head, List.mem_cons_self⟩ (inductionHypothesis.imp fun pair => ?_)
      exact ⟨pair.1, List.mem_cons_of_mem _ pair.2⟩
  | extra spare _ inductionHypothesis => exact .extra spare inductionHypothesis

/-- Items that contribute alike, and extra ones that contribute nothing, give the same run. -/
theorem Interleaved.yieldAll {α : Type u} {ε : Type v} {β : Type w} {Extra : α → Prop}
    {R : α → α → Prop} {lefts rights : List α} {yield yield' : α → Except ε (List β)}
    (related : Interleaved Extra R lefts rights)
    (same : ∀ {left right}, R left right → yield' right = yield left)
    (nothing : ∀ {item}, Extra item → yield' item = .ok []) :
    yieldAll yield' rights = yieldAll yield lefts := by
  induction related with
  | nil => rfl
  | cons head _ inductionHypothesis =>
      rw [yieldAll_cons, yieldAll_cons, same head, inductionHypothesis]
  | extra spare _ inductionHypothesis =>
      rw [yieldAll_cons, nothing spare, inductionHypothesis]
      cases Synopsis.yieldAll yield _ <;> rfl

/-- A faithful correspondence under which the children of bodies correspond too. -/
structure Thorough (source source' : String) (Extra : Node → Prop) (R : Node → Node → Prop) :
    Prop extends Faithful source source' Extra R where
  below : ∀ {left right}, R left right → Interleaved Extra R left.children right.children

namespace Thorough

variable {source source' : String} {Extra : Node → Prop} {R : Node → Node → Prop}
  (thorough : Thorough source source' Extra R)

include thorough

theorem preorderAll_interleaved (rights lefts : List Node)
    (related : Interleaved Extra R lefts rights) :
    Interleaved Extra R (Node.preorderAll lefts) (Node.preorderAll rights) := by
  -- Extra nodes shrink only the second list, so the recursion follows that one.
  cases related with
  | nil => exact .nil
  | @cons left right lefts rights head tail =>
      have inside := preorderAll_interleaved right.children left.children (thorough.below head)
      have others := preorderAll_interleaved rights lefts tail
      rw [Node.preorderAll, Node.preorderAll, left.preorder_eq, right.preorder_eq]
      exact .cons head (inside.append others)
  | @extra item lefts rights spare tail =>
      rw [Node.preorderAll, item.preorder_eq, (thorough.extra spare).children, Node.preorderAll]
      exact .extra spare (preorderAll_interleaved rights lefts tail)
termination_by Node.weightAll rights
decreasing_by
  · rw [Node.weightAll_cons, right.weight_eq]
    omega
  · rw [Node.weightAll_cons]
    have := right.weight_pos
    omega
  · rw [Node.weightAll_cons]
    have := item.weight_pos
    omega

/-- The nodes of two trees correspond in pre-order. -/
theorem preorder_interleaved {left right : Node} (related : R left right) :
    Interleaved Extra R left.preorder right.preorder := by
  rw [left.preorder_eq, right.preorder_eq]
  exact .cons related (thorough.preorderAll_interleaved _ _ (thorough.below related))

theorem matching {left right : Node} (related : R left right) : Matching Extra R left right :=
  ⟨thorough.kind related, thorough.below related⟩

theorem enumerationEntries_aligned {left right : Node} (related : R left right) :
    Aligned (Matching Extra R) (enumerationEntries left) (enumerationEntries right) := by
  have body := thorough.enumerationBody?_rel (thorough.matching related)
  rw [enumerationEntries, enumerationEntries]
  generalize enumerationBody? left = one, enumerationBody? right = other at body
  cases body with
  | none => exact .nil
  | some inside =>
      have entries := thorough.childrenOfKind (thorough.matching inside) "enum_entry" rfl
      exact entries.imp fun found => thorough.matching found.1

theorem contribution_extra {node : Node} (spare : Extra node) (selector : Selector) :
    contribution source' selector node = .ok [] := by
  have none : Kind.ofNode? source' node = none := by
    rcases (thorough.extra spare).kind_eq with kindEq | kindEq
    · simp [Kind.ofNode?, kindEq]
    · simp [Kind.ofNode?, kindEq]
  rw [contribution, none]

theorem contribution_eq {left right : Node} (related : R left right) (selector : Selector)
    (returns : Kind.ofNode? source left = some .function ∨
      Kind.ofNode? source left = some .subscript →
        returnType? source' right = returnType? source left) :
    contribution source' selector right = contribution source selector left := by
  have pair := thorough.matching related
  rw [contribution, contribution, thorough.ofNode?_eq pair]
  cases classified : Kind.ofNode? source left with
  | none => rfl
  | some kind =>
      have readEq : kind.read source' right = kind.read source left := by
        refine thorough.read_eq pair kind (fun callable => returns ?_)
          fun _ => thorough.enumerationEntries_aligned related
        rcases callable with rfl | rfl
        · exact .inl classified
        · exact .inr classified
      simp only [Declaration.read, readEq]

/-- Trees whose nodes all correspond give the same collections. -/
theorem collect_eq {root root' : Node} (related : R root root') (selector : Selector)
    (returns : ∀ {left right}, R left right → left ∈ root.preorder →
      Kind.ofNode? source left = some .function ∨ Kind.ofNode? source left = some .subscript →
        returnType? source' right = returnType? source left) :
    collect source' selector root' = collect source selector root := by
  have nodes := thorough.preorder_interleaved related
  rw [collect_eq_yieldAll_contribution, collect_eq_yieldAll_contribution]
  exact nodes.with_mem.yieldAll
    (fun found => thorough.contribution_eq found.1 selector (returns found.1 found.2))
    fun spare => thorough.contribution_extra spare selector

end Thorough

end Synopsis
