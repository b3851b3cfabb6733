/-
Module: Synopsis.Proofs.Cutting
Purpose: Lists cut at their separators, and the words of a text.  A list is cut in one way only, and
  a cut at one separator cuts the two sides of it.  Words that are joined with spaces are found
  again, and nothing without a blank in it stands across the border of two words.
Main exports:
  Parted, parted_iff, cutAt_append, mem_words, words_append_cons, words_trimStart,
  words_intercalate, infix_or_infix_of_not_mem, exists_infix_of_infix_intercalate
-/
import Synopsis.Proofs.Trimming

namespace Synopsis

open Text

universe u

/-! ### Groups with separators between them -/

section

variable {α : Type u} {isCut : α → Bool}

/-- Some items in groups, with one separator between each two groups and none inside. -/
inductive Parted (isCut : α → Bool) : List (List α) → List α → Prop where
  | last {group : List α} (whole : ∀ item ∈ group, isCut item = false) :
      Parted isCut [group] group
  | more {group : List α} {cut : α} {groups : List (List α)} {items : List α}
      (whole : ∀ item ∈ group, isCut item = false) (separates : isCut cut = true)
      (rest : Parted isCut groups items) :
      Parted isCut (group :: groups) (group ++ cut :: items)

/-- An item that is no separator joins the first group. -/
theorem Parted.consHead {groups : List (List α)} {items : List α}
    (parted : Parted isCut groups items) {item : α} (inside : isCut item = false) :
    Parted isCut (Text.consHead item groups) (item :: items) := by
  cases parted with
  | last whole => exact .last (List.forall_mem_cons.mpr ⟨inside, whole⟩)
  | more whole separates rest =>
      exact .more (List.forall_mem_cons.mpr ⟨inside, whole⟩) separates rest

/-- The pieces of a list are its groups. -/
theorem parted_cutAt (isCut : α → Bool) (items : List α) :
    Parted isCut (cutAt isCut items) items := by
  induction items with
  | nil => exact .last (List.forall_mem_nil _)
  | cons item rest inductionHypothesis =>
      rw [cutAt]
      split
      · next separates =>
          exact Parted.more (List.forall_mem_nil _) separates inductionHypothesis
      · next inside => exact inductionHypothesis.consHead (by simpa using inside)

/-- A group is a stretch of the items without a separator in it. -/
theorem Parted.of_mem {groups : List (List α)} {items group : List α}
    (parted : Parted isCut groups items) (member : group ∈ groups) :
    (∀ item ∈ group, isCut item = false) ∧ group <:+: items := by
  induction parted with
  | last whole =>
      cases List.mem_singleton.mp member
      exact ⟨whole, List.infix_rfl⟩
  | @more first cut groups items whole separates _ inductionHypothesis =>
      rcases List.mem_cons.mp member with rfl | later
      · exact ⟨whole, (List.prefix_append _ _).isInfix⟩
      · obtain ⟨within, inside⟩ := inductionHypothesis later
        have rest : items <:+ first ++ cut :: items :=
          (List.suffix_cons cut items).trans (List.suffix_append _ _)
        exact ⟨within, inside.trans rest.isInfix⟩

theorem cutAt_of_whole {group : List α} (whole : ∀ item ∈ group, isCut item = false) :
    cutAt isCut group = [group] := by
  induction group with
  | nil => rfl
  | cons item rest inductionHypothesis =>
      rw [List.forall_mem_cons] at whole
      rw [cutAt, if_neg (by simp [whole.1]), inductionHypothesis whole.2]
      rfl

theorem cutAt_append_cons {group : List α} {cut : α} (whole : ∀ item ∈ group, isCut item = false)
    (separates : isCut cut = true) (items : List α) :
    cutAt isCut (group ++ cut :: items) = group :: cutAt isCut items := by
  induction group with
  | nil => exact if_pos separates
  | cons item rest inductionHypothesis =>
      rw [List.forall_mem_cons] at whole
      rw [List.cons_append, cutAt, if_neg (by simp [whole.1]), inductionHypothesis whole.2]
      rfl

/-- A list has its groups in one way only. -/
theorem parted_iff {groups : List (List α)} {items : List α} :
    Parted isCut groups items ↔ groups = cutAt isCut items := by
  constructor
  · intro parted
    induction parted with
    | last whole => rw [cutAt_of_whole whole]
    | more whole separates _ inductionHypothesis =>
        rw [cutAt_append_cons whole separates, inductionHypothesis]
  · rintro rfl
    exact parted_cutAt isCut items

theorem Parted.append {groups groups' : List (List α)} {front back : List α} {cut : α}
    (parted : Parted isCut groups front) (separates : isCut cut = true)
    (parted' : Parted isCut groups' back) :
    Parted isCut (groups ++ groups') (front ++ cut :: back) := by
  induction parted with
  | last whole => exact .more whole separates parted'
  | more whole separates' _ inductionHypothesis =>
      rw [List.append_assoc, List.cons_append]
      exact .more whole separates' inductionHypothesis

/-- A separator cuts a list into the pieces on its left and those on its right. -/
theorem cutAt_append {cut : α} (separates : isCut cut = true) (front back : List α) :
    cutAt isCut (front ++ cut :: back) = cutAt isCut front ++ cutAt isCut back := by
  have both := (parted_cutAt isCut front).append separates (parted_cutAt isCut back)
  exact (parted_iff.mp both).symm

end

/-! ### Words -/

/-- A word is a stretch of the text with something in it and no blank. -/
theorem mem_words {cs word : List Char} (member : word ∈ words cs) :
    word ≠ [] ∧ (∀ c ∈ word, isBlank c = false) ∧ word <:+: cs := by
  rw [words, List.mem_filter] at member
  refine ⟨by simpa using member.2, ?_⟩
  exact (parted_cutAt isBlank cs).of_mem member.1

/-- A blank parts the words on its left from those on its right. -/
theorem words_append_cons {c : Char} (blank : isBlank c = true) (front back : List Char) :
    words (front ++ c :: back) = words front ++ words back := by
  rw [words, cutAt_append blank, List.filter_append]
  rfl

theorem words_of_visible {word : List Char} (nonempty : word ≠ [])
    (visible : ∀ c ∈ word, isBlank c = false) : words word = [word] := by
  rw [words, cutAt_of_whole visible]
  simp [nonempty]

theorem words_cons_of_isBlank {c : Char} (blank : isBlank c = true) (cs : List Char) :
    words (c :: cs) = words cs :=
  words_append_cons blank [] cs

theorem words_append_singleton {c : Char} (blank : isBlank c = true) (cs : List Char) :
    words (cs ++ [c]) = words cs := by
  rw [words_append_cons blank]
  exact List.append_nil _

/-- Trimming takes no word away. -/
theorem words_trimStart (cs : List Char) : words (trimStart cs) = words cs := by
  induction cs with
  | nil => rfl
  | cons c rest inductionHypothesis =>
      rw [trimStart, List.dropWhile_cons]
      split
      · next blank => exact inductionHypothesis.trans (words_cons_of_isBlank blank rest).symm
      · rfl

/-- Words with spaces between them are found again. -/
theorem words_intercalate {pieces : List (List Char)}
    (each : ∀ piece ∈ pieces, piece ≠ [] ∧ ∀ c ∈ piece, isBlank c = false) :
    words ([' '].intercalate pieces) = pieces := by
  induction pieces with
  | nil => rfl
  | cons piece rest inductionHypothesis =>
      rw [List.forall_mem_cons] at each
      obtain ⟨⟨nonempty, visible⟩, others⟩ := each
      cases rest with
      | nil => rw [List.intercalate_singleton, words_of_visible nonempty visible]
      | cons next later =>
          rw [List.intercalate_cons_cons, List.append_assoc, List.singleton_append,
            words_append_cons (by decide), words_of_visible nonempty visible,
            inductionHypothesis others]
          rfl

/-! ### Marks in a text -/

theorem infix_of_infix_trim {mark cs : List Char} (inside : mark <:+: trim cs) : mark <:+: cs := by
  obtain ⟨front, back, split, -, -⟩ := exists_trim_eq cs
  rw [split]
  exact inside.trans (List.infix_append' front (trim cs) back)

section

variable {α : Type u} {mark front back : List α} {c : α}

theorem prefix_of_prefix_append_cons (absent : c ∉ mark) (begins : mark <+: front ++ c :: back) :
    mark <+: front := by
  induction front generalizing mark with
  | nil =>
      rcases List.prefix_cons_iff.mp begins with rfl | ⟨rest, rfl, -⟩
      · exact List.nil_prefix
      · exact absurd List.mem_cons_self absent
  | cons first others inductionHypothesis =>
      rcases List.prefix_cons_iff.mp begins with rfl | ⟨rest, rfl, goesOn⟩
      · exact List.nil_prefix
      · rw [List.cons_prefix_cons]
        refine ⟨rfl, inductionHypothesis ?_ goesOn⟩
        exact fun inside => absent (List.mem_cons_of_mem _ inside)

/-- A mark does not stand across an item that is not in it. -/
theorem infix_or_infix_of_not_mem (absent : c ∉ mark) (inside : mark <:+: front ++ c :: back) :
    mark <:+: front ∨ mark <:+: back := by
  induction front with
  | nil =>
      rcases List.infix_cons_iff.mp inside with begins | later
      · have first : mark <+: [] := prefix_of_prefix_append_cons absent begins
        exact .inl first.isInfix
      · exact .inr later
  | cons first others inductionHypothesis =>
      rcases List.infix_cons_iff.mp inside with begins | later
      · have first : mark <+: first :: others := prefix_of_prefix_append_cons absent begins
        exact .inl first.isInfix
      · exact (inductionHypothesis later).imp_left List.infix_cons

end

/-- A mark that occurs in joined words occurs in one of them. -/
theorem exists_infix_of_infix_intercalate {mark : List Char} (nonempty : mark ≠ [])
    (absent : ' ' ∉ mark) {pieces : List (List Char)}
    (inside : mark <:+: [' '].intercalate pieces) : ∃ piece ∈ pieces, mark <:+: piece := by
  induction pieces with
  | nil => exact absurd (List.infix_nil.mp inside) nonempty
  | cons piece rest inductionHypothesis =>
      cases rest with
      | nil =>
          rw [List.intercalate_singleton] at inside
          exact ⟨piece, List.mem_cons_self, inside⟩
      | cons next later =>
          rw [List.intercalate_cons_cons, List.append_assoc, List.singleton_append] at inside
          rcases infix_or_infix_of_not_mem absent inside with here | further
          · exact ⟨piece, List.mem_cons_self, here⟩
          · obtain ⟨other, member, found⟩ := inductionHypothesis further
            exact ⟨other, List.mem_cons_of_mem _ member, found⟩

end Synopsis
