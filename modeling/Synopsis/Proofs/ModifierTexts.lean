/-
Module: Synopsis.Proofs.ModifierTexts
Purpose: Modifiers and their texts.  A modifier with a detail is written with one pair of
  parentheses around the detail, and reading takes away every closing parenthesis at the end.  So
  the text of a modifier is read as the same modifier exactly when its detail does not itself end
  in a parenthesis.
Main exports:
  dropAllClosing_eq_self_iff, Modifier.Spelled, Modifier.ofText_detail,
  modifier_read_from_own_text_iff
-/
import Mathlib.Data.List.DropRight
import Mathlib.Tactic.MkIffOfInductiveProp
import Synopsis.Proofs.Nesting
import Synopsis.Reading.Decorators
import Synopsis.Record.Render

namespace Synopsis

open Text

/-! ### Closing parentheses at the end -/

theorem dropAllClosing_append (text : List Char) :
    dropAllClosing (text ++ [')']) = dropAllClosing text :=
  List.rdropWhile_concat_pos _ _ _ (by rfl)

theorem dropAllClosing_isPrefix (text : List Char) : dropAllClosing text <+: text :=
  List.rdropWhile_prefix _ _

/-- Nothing is taken away exactly where there is nothing to take away. -/
theorem dropAllClosing_eq_self_iff {text : List Char} :
    dropAllClosing text = text ↔ text.getLast? ≠ some ')' := by
  rcases List.eq_nil_or_concat' text with rfl | ⟨front, last, rfl⟩
  · simp [dropAllClosing]
  · rw [List.getLast?_concat, ne_eq, Option.some.injEq]
    by_cases closing : last = ')'
    · subst closing
      have shorter : (dropAllClosing front).length < (front ++ [')']).length := by
        rw [List.length_append]
        exact Nat.lt_succ_of_le (dropAllClosing_isPrefix front).length_le
      rw [dropAllClosing_append]
      constructor
      · intro same
        exact absurd (congrArg List.length same) shorter.ne
      · intro different
        exact absurd rfl different
    · have kept : dropAllClosing (front ++ [last]) = front ++ [last] :=
        List.rdropWhile_concat_neg _ _ _ (by simpa using closing)
      simp [kept, closing]

/-- A trimmed text is left of it exactly when no closing parenthesis was taken away. -/
theorem trim_dropAllClosing_eq_iff {text : List Char} (whole : trim text = text) :
    trim (dropAllClosing text) = text ↔ text.getLast? ≠ some ')' := by
  rw [← dropAllClosing_eq_self_iff]
  constructor
  · intro kept
    have shorter := trim_sublist (dropAllClosing text)
    rw [kept] at shorter
    exact (dropAllClosing_isPrefix text).sublist.antisymm shorter
  · intro untouched
    rw [untouched, whole]

/-! ### Modifiers as they are rendered -/

/-- A modifier as a text can spell it: its name is trimmed and has no opening parenthesis in it, and
its detail, when there is one, is trimmed and not empty. -/
@[mk_iff]
structure Modifier.Spelled (modifier : Modifier) : Prop where
  nameTrimmed : trimmed modifier.name = modifier.name
  noParenthesis : '(' ∉ modifier.name.toList
  detailed : ∀ detail ∈ modifier.detail, detail ≠ ""
  detailTrimmed : ∀ detail ∈ modifier.detail, trimmed detail = detail

instance (modifier : Modifier) : Decidable modifier.Spelled :=
  decidable_of_iff' _ (Modifier.spelled_iff modifier)

/-- A text without a parenthesis is a name. -/
theorem Modifier.ofText_name {name : List Char} (absent : '(' ∉ name) :
    Modifier.ofText name = { name := String.ofList (trim name), detail := none } := by
  rw [Modifier.ofText, splitOnce_eq_none_iff.mpr absent]

/-- A name with a detail in parentheses is read as the name with what is left of the detail. -/
theorem Modifier.ofText_detail {name : List Char} (absent : '(' ∉ name) (detail : List Char) :
    Modifier.ofText (name ++ '(' :: (detail ++ [')'])) =
      { name := String.ofList (trim name),
        detail :=
          if (trim (dropAllClosing detail)).isEmpty then none
          else some (String.ofList (trim (dropAllClosing detail))) } := by
  have untouched : trimEnd (detail ++ [')']) = detail ++ [')'] :=
    trimEnd_append_cons (by decide) detail []
  rw [Modifier.ofText, splitOnce_eq_some_iff.mpr ⟨rfl, absent⟩]
  dsimp only
  rw [untouched, dropAllClosing_append]

/-- The text of a modifier is read as the same modifier exactly when the detail, if there is one,
does not end in a closing parenthesis. -/
theorem modifier_read_from_own_text_iff {modifier : Modifier} (spelled : modifier.Spelled) :
    Modifier.ofText modifier.render.toList = modifier ↔
      ∀ detail ∈ modifier.detail, detail.toList.getLast? ≠ some ')' := by
  obtain ⟨name, detail⟩ := modifier
  have nameKept : String.ofList (trim name.toList) = name := spelled.nameTrimmed
  cases detail with
  | none =>
      rw [Modifier.render, Modifier.ofText_name spelled.noParenthesis, nameKept]
      simp
  | some detail =>
      have rendered : (Modifier.render { name, detail := some detail }).toList =
          name.toList ++ '(' :: (detail.toList ++ [')']) := by
        simp [Modifier.render]
      have whole : trim detail.toList = detail.toList := by
        have kept := congrArg String.toList (spelled.detailTrimmed detail rfl)
        rwa [trimmed, String.toList_ofList] at kept
      have nonempty : detail.toList ≠ [] := fun empty =>
        spelled.detailed detail rfl (String.toList_eq_nil_iff.mp empty)
      rw [rendered, Modifier.ofText_detail spelled.noParenthesis, nameKept]
      simp only [Modifier.mk.injEq, true_and, Option.mem_def, Option.some.injEq, forall_eq']
      rw [← trim_dropAllClosing_eq_iff whole]
      constructor
      · intro read
        split at read
        · cases read
        · rw [← String.ofList_inj, String.ofList_toList]
          exact Option.some.inj read
      · intro kept
        rw [kept, if_neg (by simpa using nonempty), String.ofList_toList]

/-- A modifier with parentheses inside its detail, none of them at the end. -/
def tupleDetail : Modifier :=
  { name := "unowned", detail := some "(a) b" }

/-- Parentheses inside a detail do no harm. -/
theorem modifier_of_tupleDetail :
    tupleDetail.Spelled ∧ tupleDetail.render = "unowned((a) b)" ∧
    Modifier.ofText tupleDetail.render.toList = tupleDetail := by
  have spelled : tupleDetail.Spelled := by decide +kernel
  refine ⟨spelled, by decide +kernel, ?_⟩
  exact (modifier_read_from_own_text_iff spelled).mpr (by decide +kernel)

/-- A modifier whose detail ends in a parenthesis that closes one inside the detail. -/
def nestedDetail : Modifier :=
  { name := "private", detail := some "set(a)" }

/-- The last parenthesis of a balanced detail is lost together with the one around the detail. -/
theorem modifier_of_nestedDetail :
    nestedDetail.Spelled ∧ nestedDetail.name ≠ "" ∧
    (∀ detail ∈ nestedDetail.detail, isBalanced detail.toList = true) ∧
    nestedDetail.render = "private(set(a))" ∧
    Modifier.ofText nestedDetail.render.toList = { name := "private", detail := some "set(a" } := by
  decide +kernel

end Synopsis
