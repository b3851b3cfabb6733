/-
Module: Synopsis.Tree.Cursor
Purpose: One cursor that is moved through a tree, and the walk that moves it.
Main exports:
  Crumb, Cursor, Cursor.firstChild?, Cursor.nextSibling?, Cursor.parent?, Cursor.visit
-/
import Synopsis.Tree.Basic

namespace Synopsis

/-- What a cursor leaves behind when it steps down to a child: the parent's row and the siblings on
both sides of that child. -/
structure Crumb where
  row : Row
  /-- The siblings to the left, nearest first. -/
  before : List Node
  /-- The siblings to the right, nearest first. -/
  after : List Node

/-- A place in a tree from which the neighbouring places can be reached. -/
structure Cursor where
  node : Node
  /-- The way up, nearest parent first.  It is empty where the cursor was set down. -/
  trail : List Crumb

namespace Cursor

/-- A cursor set down on the root of a tree. -/
def start (root : Node) : Cursor :=
  { node := root, trail := [] }

/-- Step down to the first child. -/
def firstChild? : Cursor → Option Cursor
  | ⟨.mk row (child :: rest), trail⟩ => some ⟨child, ⟨row, [], rest⟩ :: trail⟩
  | ⟨.mk _ [], _⟩ => none

/-- Step right to the next sibling. -/
def nextSibling? : Cursor → Option Cursor
  | ⟨node, ⟨row, before, next :: rest⟩ :: trail⟩ =>
      some ⟨next, ⟨row, node :: before, rest⟩ :: trail⟩
  | ⟨_, ⟨_, _, []⟩ :: _⟩ => none
  | ⟨_, []⟩ => none

/-- Step up to the parent, put together again from the node and its siblings. -/
def parent? : Cursor → Option Cursor
  | ⟨node, ⟨row, before, after⟩ :: trail⟩ => some ⟨.mk row (before.reverse ++ node :: after), trail⟩
  | ⟨_, []⟩ => none

/-- Step up to the parent; at the top the cursor stays where it is. -/
def up (cursor : Cursor) : Cursor :=
  cursor.parent?.getD cursor

/-- The siblings to the right of the cursor. -/
def following : Cursor → List Node
  | ⟨_, crumb :: _⟩ => crumb.after
  | ⟨_, []⟩ => []

/-! ### The moves undo each other -/

/-- The parent of the first child is the place the cursor came from. -/
theorem parent?_of_firstChild? {cursor child : Cursor} (moved : cursor.firstChild? = some child) :
    child.parent? = some cursor := by
  obtain ⟨⟨row, _ | ⟨first, rest⟩⟩, trail⟩ := cursor
  · simp [firstChild?] at moved
  · simp only [firstChild?, Option.some.injEq] at moved
    subst moved
    rfl

/-- Siblings have the same parent. -/
theorem parent?_of_nextSibling? {cursor next : Cursor} (moved : cursor.nextSibling? = some next) :
    next.parent? = cursor.parent? := by
  obtain ⟨node, _ | ⟨⟨row, before, _ | ⟨right, rest⟩⟩, trail⟩⟩ := cursor
  · simp [nextSibling?] at moved
  · simp [nextSibling?] at moved
  · simp only [nextSibling?, Option.some.injEq] at moved
    subst moved
    simp [parent?]

/-- The first child and its right siblings are all the children. -/
theorem children_of_firstChild? {cursor child : Cursor} (moved : cursor.firstChild? = some child) :
    cursor.node.children = child.node :: child.following := by
  obtain ⟨⟨row, _ | ⟨first, rest⟩⟩, trail⟩ := cursor
  · simp [firstChild?] at moved
  · simp only [firstChild?, Option.some.injEq] at moved
    subst moved
    rfl

/-- A cursor that cannot step down is on a node without children. -/
theorem children_of_firstChild?_eq_none {cursor : Cursor} (stuck : cursor.firstChild? = none) :
    cursor.node.children = [] := by
  obtain ⟨⟨row, _ | ⟨first, rest⟩⟩, trail⟩ := cursor
  · rfl
  · simp [firstChild?] at stuck

/-- The next sibling and its right siblings are all the right siblings. -/
theorem following_of_nextSibling? {cursor next : Cursor} (moved : cursor.nextSibling? = some next) :
    cursor.following = next.node :: next.following := by
  obtain ⟨node, _ | ⟨⟨row, before, _ | ⟨right, rest⟩⟩, trail⟩⟩ := cursor
  · simp [nextSibling?] at moved
  · simp [nextSibling?] at moved
  · simp only [nextSibling?, Option.some.injEq] at moved
    subst moved
    rfl

/-- A cursor that cannot step right is on a last sibling. -/
theorem following_of_nextSibling?_eq_none {cursor : Cursor} (stuck : cursor.nextSibling? = none) :
    cursor.following = [] := by
  obtain ⟨node, _ | ⟨⟨row, before, _ | ⟨right, rest⟩⟩, trail⟩⟩ := cursor
  · rfl
  · rfl
  · simp [nextSibling?] at stuck

/-! ### The walk

Every part of the walk moves the same cursor.  The walk over one subtree gives the cursor back on
the node where it took it, which is why the loop over the siblings goes on from the right place and
comes to an end; the types of the two functions say so.
-/

universe u v

mutual

/-- Visit the cursor's node and then everything below it, adding what each node yields, up to the
first error. -/
def visit {ε : Type u} {α : Type v} (yield : Node → Except ε (List α)) (found : Array α)
    (cursor : Cursor) : Except ε { result : Cursor × Array α // result.1 = cursor } := do
  let items ← yield cursor.node
  match down : cursor.firstChild? with
  | none => .ok ⟨(cursor, found ++ items), rfl⟩
  | some child => do
      let ⟨(last, found), sameParent⟩ ← visitSiblings yield (found ++ items) child
      .ok ⟨(last.up, found), by simp [up, sameParent, parent?_of_firstChild? down]⟩
termination_by 2 * cursor.node.weight
decreasing_by
  rw [Node.weight_eq, children_of_firstChild? down]
  omega

/-- Visit the cursor's subtree and those of the siblings to its right. -/
def visitSiblings {ε : Type u} {α : Type v} (yield : Node → Except ε (List α)) (found : Array α)
    (cursor : Cursor) :
    Except ε { result : Cursor × Array α // result.1.parent? = cursor.parent? } := do
  let ⟨(here, found), back⟩ ← visit yield found cursor
  match right : here.nextSibling? with
  | none => .ok ⟨(here, found), by rw [← back]⟩
  | some next => do
      let ⟨(last, found), sameParent⟩ ← visitSiblings yield found next
      .ok ⟨(last, found), by rw [← back, ← parent?_of_nextSibling? right, ← sameParent]⟩
termination_by 2 * Node.weightAll (cursor.node :: cursor.following) + 1
decreasing_by
  · rw [Node.weightAll_cons]
    omega
  · have moved : cursor.following = next.node :: next.following := by
      rw [← back]
      exact following_of_nextSibling? right
    have positive := Node.weight_pos cursor.node
    rw [moved, Node.weightAll_cons cursor.node]
    omega

end

end Cursor

end Synopsis
