/-
Module: Synopsis.Text.Cut
Purpose: Dividing a list at separators.
Main exports:
  consHead, cutAt, splitOnce
-/
namespace Synopsis.Text

universe u

/-!
A cut removes the separators and keeps everything between them, empty pieces included, so a list
with `n` separators is cut into `n + 1` pieces.
-/

/-- Put an element in front of the first piece. -/
def consHead {α : Type u} (a : α) : List (List α) → List (List α)
  | [] => [[a]]
  | piece :: pieces => (a :: piece) :: pieces

/-- The pieces between the elements that satisfy `isCut`, in order. -/
def cutAt {α : Type u} (isCut : α → Bool) : List α → List (List α)
  | [] => [[]]
  | a :: as => if isCut a then [] :: cutAt isCut as else consHead a (cutAt isCut as)

/-- The text before and after the first occurrence of `mark`, which is not empty. -/
def splitOnce (mark : List Char) : List Char → Option (List Char × List Char)
  | [] => none
  | c :: cs =>
      if mark.isPrefixOf (c :: cs) then some ([], (c :: cs).drop mark.length)
      else (splitOnce mark cs).map fun sides => (c :: sides.1, sides.2)

end Synopsis.Text
