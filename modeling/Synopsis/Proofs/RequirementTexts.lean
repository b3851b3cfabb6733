/-
Module: Synopsis.Proofs.RequirementTexts
Purpose: Where-clauses and their texts.  The relation of an entry and the place where its two sides
  meet are found in its text.  The text of what was read has one mark between two clean sides, and
  the mark is found again there: it is read as the same requirement.
Main exports:
  equality, equatesTypes_mono, words_withoutAttributes, infix_of_infix_withoutAttributes,
  ofText?_render, requirement_read_from_own_text
-/
import Mathlib.Data.List.DropRight
import Synopsis.Proofs.Collection
import Synopsis.Proofs.Cutting
import Synopsis.Reading.Generics
import Synopsis.Record.Render

namespace Synopsis

open Text

/-! ### The left side -/

/-- The words of a left side are those of the text after its leading attributes. -/
theorem words_withoutAttributes (text : List Char) :
    words (withoutAttributes text).toList = (words text).dropWhile (·.head? == some '@') := by
  rw [withoutAttributes, String.toList_ofList]
  apply words_intercalate
  intro word member
  have found := mem_words ((List.dropWhile_sublist _).subset member)
  exact ⟨found.1, found.2.1⟩

/-- A text with the words of a left side is read as that side. -/
theorem withoutAttributes_of_words {text side : List Char}
    (same : words side = words (withoutAttributes text).toList) :
    withoutAttributes side = withoutAttributes text := by
  rw [withoutAttributes, same, words_withoutAttributes, List.dropWhile_idempotent]
  rfl

/-- A left side has no marks that the text had not. -/
theorem infix_of_infix_withoutAttributes {mark text : List Char} (nonempty : mark ≠ [])
    (noBlank : ' ' ∉ mark) (inside : mark <:+: (withoutAttributes text).toList) :
    mark <:+: text := by
  rw [withoutAttributes, String.toList_ofList] at inside
  obtain ⟨word, member, found⟩ := exists_infix_of_infix_intercalate nonempty noBlank inside
  have within := mem_words ((List.dropWhile_sublist _).subset member)
  exact found.trans within.2.2

/-! ### The relation -/

/-- The mark between two types that are equated. -/
def equality : List Char :=
  ['=', '=']

theorem equality_ne_nil : equality ≠ [] := List.cons_ne_nil _ _

/-- Two types are equated where the node says so, or where it says nothing and the mark occurs. -/
theorem equatesTypes_iff {kind : String} {text : List Char} :
    equatesTypes kind text = true ↔
      kind = "equality_constraint" ∨ kind ≠ "inheritance_constraint" ∧ equality <:+: text := by
  unfold equatesTypes
  split
  · simp
  · simp
  · next notInheritance notEquality =>
      have occurs : (splitOnce equality text).isSome = true ↔ equality <:+: text := by
        rw [← not_iff_not, ← splitOnce_eq_none_iff_absent equality_ne_nil]
        simp
      rw [or_iff_right notEquality, and_iff_right notInheritance]
      exact occurs

/-- What equates two types still does so with another text that has the mark if the first has. -/
theorem equatesTypes_of_imp {kind : String} {text text' : List Char}
    (kept : equality <:+: text → equality <:+: text') (equates : equatesTypes kind text = true) :
    equatesTypes kind text' = true := by
  rw [equatesTypes_iff] at equates ⊢
  exact equates.imp_right fun judged => ⟨judged.1, kept judged.2⟩

/-! ### Requirements as they are rendered -/

namespace GenericRequirement

/-- How a requirement is read: a text that equates two types is divided at the first `==` or, if
there is none, at the first `=`, and any other at the first colon. -/
theorem ofText?_cases {kind : String} {text : List Char} {requirement : GenericRequirement}
    (read : ofText? kind text = some requirement) :
    (∃ left right,
      requirement = sameType (withoutAttributes left) (String.ofList (trim right)) ∧
      equatesTypes kind text = true ∧ ¬ equality <:+: left) ∨
    ∃ left right,
      requirement = conformance (withoutAttributes left) (String.ofList (trim right)) ∧
      equatesTypes kind text = false ∧ text = left ++ ':' :: right ∧ ':' ∉ left := by
  rw [ofText?] at read
  split at read
  · next equates =>
      obtain ⟨⟨left, right⟩, divided, same⟩ := Option.map_eq_some_iff.mp read
      refine .inl ⟨left, right, same.symm, equates, ?_⟩
      rcases Option.or_eq_some_iff.mp divided with doubled | ⟨absent, single⟩
      · have first := ((splitOnce_eq_some_iff_first equality_ne_nil).mp doubled).2
        exact fun inside => first (inside.trans (List.prefix_append _ _).isInfix)
      · obtain ⟨rfl, -⟩ := splitOnce_eq_some_iff.mp single
        have nowhere := (splitOnce_eq_none_iff_absent equality_ne_nil).mp absent
        exact fun inside => nowhere (inside.trans (List.prefix_append _ _).isInfix)
  · next conforms =>
      obtain ⟨⟨left, right⟩, divided, same⟩ := Option.map_eq_some_iff.mp read
      obtain ⟨split, absent⟩ := splitOnce_eq_some_iff.mp divided
      exact .inr ⟨left, right, same.symm, by simpa using conforms, split, absent⟩

/-- A text that equates two types is read from both sides of its first mark. -/
theorem ofText?_of_equality {kind : String} {left right : List Char}
    (equates : equatesTypes kind (left ++ (equality ++ right)) = true)
    (first : ¬ equality <:+: left ++ ['=']) :
    ofText? kind (left ++ (equality ++ right)) =
      some (sameType (withoutAttributes left) (String.ofList (trim right))) := by
  have divided : splitOnce ['=', '='] (left ++ (equality ++ right)) = some (left, right) :=
    (splitOnce_eq_some_iff_first equality_ne_nil).mpr ⟨rfl, first⟩
  rw [ofText?, if_pos equates, divided]
  rfl

/-- Any other text is read from both sides of its first colon. -/
theorem ofText?_of_colon {kind : String} {left right : List Char}
    (conforms : equatesTypes kind (left ++ ':' :: right) = false) (first : ':' ∉ left) :
    ofText? kind (left ++ ':' :: right) =
      some (conformance (withoutAttributes left) (String.ofList (trim right))) := by
  rw [ofText?, if_neg (by simp [conforms]), splitOnce_eq_some_iff.mpr ⟨rfl, first⟩]
  rfl

/-- A right side after a space is read as it was. -/
theorem trim_trimEnd_cons (right : List Char) :
    trim (trimEnd (' ' :: trim right)) = trim right := by
  rw [trim_trimEnd, trim_cons_of_isBlank (by decide), trim_trim]

section

variable {kind : String} {text left right : List Char}

/-- The text of two equated types is read as such by a node that equates types. -/
theorem ofText?_render_sameType (equates : equatesTypes kind text = true)
    (clear : ¬ equality <:+: left) :
    ofText? kind (trim
      (sameType (withoutAttributes left) (String.ofList (trim right))).render.toList) =
      some (sameType (withoutAttributes left) (String.ofList (trim right))) := by
  have letters : (sameType (withoutAttributes left) (String.ofList (trim right))).render.toList =
      ((withoutAttributes left).toList ++ [' ']) ++ '=' :: ('=' :: ' ' :: trim right) := by
    simp [render]
  have second : trimEnd ('=' :: ' ' :: trim right) = '=' :: trimEnd (' ' :: trim right) :=
    trimEnd_append_cons (by decide) [] _
  have spelled : trim
      (sameType (withoutAttributes left) (String.ofList (trim right))).render.toList =
      trimStart ((withoutAttributes left).toList ++ [' ']) ++
        (equality ++ trimEnd (' ' :: trim right)) := by
    rw [letters, trim_append_cons (by decide), second]
    rfl
  -- The left side has no mark of its own, and the space keeps it apart from the one that follows.
  have first : ¬ equality <:+: trimStart ((withoutAttributes left).toList ++ [' ']) ++ ['='] := by
    intro inside
    have whole : equality <:+: (withoutAttributes left).toList ++ ' ' :: ['='] := by
      obtain ⟨front, split, -⟩ := exists_trimStart_eq ((withoutAttributes left).toList ++ [' '])
      rw [List.append_cons, split, List.append_assoc]
      exact inside.trans (List.suffix_append front _).isInfix
    rcases infix_or_infix_of_not_mem (by decide) whole with before | after
    · exact clear (infix_of_infix_withoutAttributes equality_ne_nil (by decide) before)
    · exact absurd after.length_le (by decide)
  have side : withoutAttributes (trimStart ((withoutAttributes left).toList ++ [' '])) =
      withoutAttributes left := by
    apply withoutAttributes_of_words
    rw [words_trimStart, words_append_singleton (by decide)]
  rw [spelled, ofText?_of_equality (equatesTypes_of_imp ?_ equates) first, side,
    trim_trimEnd_cons]
  exact fun _ => List.infix_append' _ _ _

/-- The text of a conformance is read as such by a node that found no equality in the first text. -/
theorem ofText?_render_conformance (conforms : equatesTypes kind (left ++ ':' :: right) = false)
    (first : ':' ∉ left) :
    ofText? kind (trim
      (conformance (withoutAttributes left) (String.ofList (trim right))).render.toList) =
      some (conformance (withoutAttributes left) (String.ofList (trim right))) := by
  have letters : (conformance (withoutAttributes left) (String.ofList (trim right))).render.toList =
      (withoutAttributes left).toList ++ ':' :: (' ' :: trim right) := by
    simp [render]
  -- A mark of an equality in the new text stands in one of the sides, so it was there before.
  have kept : equality <:+: trim ((withoutAttributes left).toList ++ ':' :: (' ' :: trim right)) →
      equality <:+: left ++ ':' :: right := by
    intro inside
    rcases infix_or_infix_of_not_mem (by decide) (infix_of_infix_trim inside) with before | after
    · have within := infix_of_infix_withoutAttributes equality_ne_nil (by decide) before
      exact within.trans (List.prefix_append _ _).isInfix
    · rcases List.infix_cons_iff.mp after with begins | within
      · exact absurd (List.cons_prefix_cons.mp begins).1 (by decide)
      · have rest : right <:+ left ++ ':' :: right :=
          (List.suffix_cons _ _).trans (List.suffix_append _ _)
        exact (infix_of_infix_trim within).trans rest.isInfix
  have conforms' : ¬ equatesTypes kind
      (trim ((withoutAttributes left).toList ++ ':' :: (' ' :: trim right))) = true := by
    intro equates
    exact absurd (equatesTypes_of_imp kept equates) (by simp [conforms])
  have first' : ':' ∉ trimStart (withoutAttributes left).toList := by
    intro inside
    have within := (List.dropWhile_sublist _).subset inside
    rw [← List.singleton_infix_iff] at within first
    exact first (infix_of_infix_withoutAttributes (List.cons_ne_nil _ _) (by decide) within)
  have side : withoutAttributes (trimStart (withoutAttributes left).toList) =
      withoutAttributes left := by
    apply withoutAttributes_of_words
    rw [words_trimStart]
  rw [trim_append_cons (by decide), Bool.not_eq_true] at conforms'
  rw [letters, trim_append_cons (by decide), ofText?_of_colon conforms' first', side,
    trim_trimEnd_cons]

end

/-- The text of a requirement that was read from an entry is read by the same kind of entry as the
same requirement. -/
theorem ofText?_render {kind : String} {text : List Char} {requirement : GenericRequirement}
    (read : ofText? kind text = some requirement) :
    ofText? kind (trim requirement.render.toList) = some requirement := by
  rcases ofText?_cases read with
    ⟨left, right, rfl, equates, clear⟩ | ⟨left, right, rfl, conforms, rfl, first⟩
  · exact ofText?_render_sameType equates clear
  · exact ofText?_render_conformance conforms first

end GenericRequirement

/-- The text of a requirement that was read from a where-clause entry is read as the same
requirement from every entry of the same kind.  Its left side has one space between its words and no
attributes before them, and its right side is trimmed. -/
theorem requirement_read_from_own_text {source : String} {entry : Node}
    {requirement : GenericRequirement}
    (read : GenericRequirement.ofNode? source entry = some requirement) :
    (∀ (source' : String) (entry' : Node), entry'.kind = entry.kind →
      entry'.text? source' = some (trimmed requirement.render) →
      GenericRequirement.ofNode? source' entry' = some requirement) ∧
    withoutAttributes requirement.left.toList = requirement.left ∧
    trimmed requirement.right = requirement.right := by
  obtain ⟨text, textEq, readText⟩ := Option.bind_eq_some_iff.mp read
  refine ⟨?_, ?_⟩
  · intro source' entry' kindEq textEq'
    rw [GenericRequirement.ofNode?, textEq', Option.bind_some, kindEq, trimmed,
      String.toList_ofList]
    exact GenericRequirement.ofText?_render readText
  · have kept : ∀ right : List Char,
        trimmed (String.ofList (trim right)) = String.ofList (trim right) := by
      intro right
      rw [trimmed, String.toList_ofList, trim_trim]
    rcases GenericRequirement.ofText?_cases readText with
      ⟨left, right, rfl, -⟩ | ⟨left, right, rfl, -⟩
    · exact ⟨withoutAttributes_of_words rfl, kept right⟩
    · exact ⟨withoutAttributes_of_words rfl, kept right⟩

/-- The text of `brokenEquality`. -/
def brokenEqualityText : String :=
  "@retro  T . A= =B:C"

/-- An equality with an attribute in front, blanks between its words and two single signs. -/
def brokenEquality : Node :=
  .rule "equality_constraint" 0 19 [] []

/-- The broken equality is divided at its first sign; its text has a whole sign there, before the
one that belongs to the right side. -/
theorem requirement_of_brokenEquality :
    GenericRequirement.ofNode? brokenEqualityText brokenEquality =
      some (.sameType "T . A" "=B:C") ∧
    (GenericRequirement.sameType "T . A" "=B:C").render = "T . A == =B:C" ∧
    GenericRequirement.ofNode? "T . A == =B:C" (.rule "equality_constraint" 0 13 [] []) =
      some (.sameType "T . A" "=B:C") := by
  have read : GenericRequirement.ofNode? brokenEqualityText brokenEquality =
      some (.sameType "T . A" "=B:C") := by
    decide +kernel
  refine ⟨read, by decide +kernel, ?_⟩
  exact (requirement_read_from_own_text read).1 _ _ rfl (by decide +kernel)

end Synopsis
