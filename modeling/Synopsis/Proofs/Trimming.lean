/-
Module: Synopsis.Proofs.Trimming
Purpose: What trimming a text removes and keeps, and where a text is divided by the first
  occurrence of a mark.
Main exports:
  trim_eq_nil_iff, exists_trim_eq, trim_padded, trim_append_cons, countP_trim, trim_append_eq_iff,
  splitOnce_eq_none_iff_absent, splitOnce_eq_some_iff_first, splitOnce_eq_none_iff,
  splitOnce_eq_some_iff
-/
import Mathlib.Data.List.Infix
import Mathlib.Data.List.TakeWhile
import Synopsis.Text.Blank

namespace Synopsis

/-! ### What trimming removes -/

theorem trimEnd_eq_nil_iff {cs : List Char} :
    Text.trimEnd cs = [] ↔ ∀ c ∈ cs, Text.isBlank c = true := by
  rw [Text.trimEnd, List.reverse_eq_nil_iff, List.dropWhile_eq_nil_iff]
  simp only [List.mem_reverse]

/-- Trimming leaves nothing exactly of a text that is all blanks. -/
theorem trim_eq_nil_iff {cs : List Char} :
    Text.trim cs = [] ↔ ∀ c ∈ cs, Text.isBlank c = true := by
  rw [Text.trim, trimEnd_eq_nil_iff, Text.trimStart]
  constructor
  · intro blank c member
    rw [← List.takeWhile_append_dropWhile (p := Text.isBlank) (l := cs), List.mem_append] at member
    rcases member with front | rest
    · exact List.mem_takeWhile_imp front
    · exact blank c rest
  · intro blank c member
    exact blank c ((List.dropWhile_sublist _).subset member)

theorem trimEnd_prefix (cs : List Char) : Text.trimEnd cs <+: cs := by
  rw [Text.trimEnd, ← List.reverse_suffix, List.reverse_reverse]
  exact List.dropWhile_suffix _

/-- What trimming the start removes. -/
theorem exists_trimStart_eq (cs : List Char) :
    ∃ front, cs = front ++ Text.trimStart cs ∧ ∀ c ∈ front, Text.isBlank c = true :=
  ⟨cs.takeWhile Text.isBlank, List.takeWhile_append_dropWhile.symm,
    fun _ member => List.mem_takeWhile_imp member⟩

/-- What trimming the end removes. -/
theorem exists_trimEnd_eq (cs : List Char) :
    ∃ back, cs = Text.trimEnd cs ++ back ∧ ∀ c ∈ back, Text.isBlank c = true := by
  obtain ⟨front, split, blank⟩ := exists_trimStart_eq cs.reverse
  refine ⟨front.reverse, ?_, by simpa using blank⟩
  have turned := congrArg List.reverse split
  rw [List.reverse_reverse, List.reverse_append] at turned
  exact turned

/-- What trimming removes. -/
theorem exists_trim_eq (cs : List Char) :
    ∃ front back, cs = front ++ (Text.trim cs ++ back) ∧
      (∀ c ∈ front, Text.isBlank c = true) ∧ ∀ c ∈ back, Text.isBlank c = true := by
  obtain ⟨front, frontEq, blankFront⟩ := exists_trimStart_eq cs
  obtain ⟨back, backEq, blankBack⟩ := exists_trimEnd_eq (Text.trimStart cs)
  refine ⟨front, back, ?_, blankFront, blankBack⟩
  rw [Text.trim, ← backEq]
  exact frontEq

theorem trim_sublist (cs : List Char) : (Text.trim cs).Sublist cs := by
  have front := trimEnd_prefix (Text.trimStart cs)
  exact front.sublist.trans (List.dropWhile_sublist _)

/-! ### What trimming keeps -/

/-- Blanks around a text make no difference. -/
theorem trim_padded {front back : List Char} (blankFront : ∀ c ∈ front, Text.isBlank c = true)
    (blankBack : ∀ c ∈ back, Text.isBlank c = true) (cs : List Char) :
    Text.trim (front ++ (cs ++ back)) = Text.trim cs := by
  rw [Text.trim, Text.trimStart, List.dropWhile_append_of_pos blankFront, List.dropWhile_append]
  split
  · next allBlank =>
      have nothing : Text.trimStart cs = [] := List.isEmpty_iff.mp allBlank
      have none : back.dropWhile Text.isBlank = [] := List.dropWhile_eq_nil_iff.mpr blankBack
      rw [Text.trim, nothing, none]
  · rw [Text.trim, Text.trimEnd, List.reverse_append,
      List.dropWhile_append_of_pos (by simpa using blankBack)]
    rfl

theorem trim_cons_of_isBlank {c : Char} (blank : Text.isBlank c = true) (cs : List Char) :
    Text.trim (c :: cs) = Text.trim cs := by
  rw [Text.trim, Text.trimStart, List.dropWhile_cons_of_pos blank]
  rfl

theorem trim_trimStart (cs : List Char) : Text.trim (Text.trimStart cs) = Text.trim cs := by
  obtain ⟨front, split, blank⟩ := exists_trimStart_eq cs
  have same := trim_padded blank (List.forall_mem_nil _) (Text.trimStart cs)
  rw [List.append_nil, ← split] at same
  exact same.symm

theorem trim_trimEnd (cs : List Char) : Text.trim (Text.trimEnd cs) = Text.trim cs := by
  obtain ⟨back, split, blank⟩ := exists_trimEnd_eq cs
  have same := trim_padded (List.forall_mem_nil _) blank (Text.trimEnd cs)
  rw [List.nil_append, ← split] at same
  exact same.symm

theorem trim_trim (cs : List Char) : Text.trim (Text.trim cs) = Text.trim cs := by
  obtain ⟨front, back, split, blankFront, blankBack⟩ := exists_trim_eq cs
  have same := trim_padded blankFront blankBack (Text.trim cs)
  rw [← split] at same
  exact same.symm

theorem isBlank_of_head?_dropWhile {cs : List Char} {c : Char}
    (first : (cs.dropWhile Text.isBlank).head? = some c) : Text.isBlank c = false := by
  have passed := List.head?_dropWhile_not Text.isBlank cs
  rw [first] at passed
  exact passed

/-- No trimmed text begins with a blank. -/
theorem isBlank_of_head?_trim {cs : List Char} {c : Char}
    (first : (Text.trim cs).head? = some c) : Text.isBlank c = false := by
  -- Trimming the end keeps the first character, which trimming the start has left there.
  obtain ⟨rest, split⟩ := trimEnd_prefix (Text.trimStart cs)
  have kept : (Text.trimStart cs).head? = some c := by
    rw [← split, List.head?_append]
    exact Option.or_eq_some_iff.mpr (.inl first)
  exact isBlank_of_head?_dropWhile kept

/-- Dropping a front does not reach past a character that fails the test. -/
theorem dropWhile_append_cons {test : Char → Bool} {c : Char} (stops : test c = false)
    (front back : List Char) :
    (front ++ c :: back).dropWhile test = front.dropWhile test ++ c :: back := by
  induction front with
  | nil => exact List.dropWhile_cons_of_neg (by simp [stops])
  | cons first rest inductionHypothesis =>
      rw [List.cons_append, List.dropWhile_cons, List.dropWhile_cons]
      split
      · exact inductionHypothesis
      · rfl

/-- Trimming does not reach past a character that is no blank. -/
theorem trimEnd_append_cons {c : Char} (visible : Text.isBlank c = false)
    (front back : List Char) :
    Text.trimEnd (front ++ c :: back) = front ++ c :: Text.trimEnd back := by
  rw [Text.trimEnd, List.reverse_append, List.reverse_cons, List.append_assoc,
    List.singleton_append, dropWhile_append_cons visible, List.reverse_append,
    List.reverse_cons, List.reverse_reverse, List.append_assoc]
  rfl

theorem trim_append_cons {c : Char} (visible : Text.isBlank c = false)
    (front back : List Char) :
    Text.trim (front ++ c :: back) = Text.trimStart front ++ c :: Text.trimEnd back := by
  rw [Text.trim, Text.trimStart, dropWhile_append_cons visible, trimEnd_append_cons visible]
  rfl

/-- Trimming loses nothing that passes a test which no blank passes. -/
theorem countP_trim {test : Char → Bool} (visible : ∀ c, Text.isBlank c = true → test c = false)
    (cs : List Char) : (Text.trim cs).countP test = cs.countP test := by
  obtain ⟨front, back, split, blankFront, blankBack⟩ := exists_trim_eq cs
  have lost : ∀ blanks : List Char, (∀ c ∈ blanks, Text.isBlank c = true) →
      blanks.countP test = 0 := by
    intro blanks blank
    rw [List.countP_eq_zero]
    intro c member
    rw [visible c (blank c member)]
    exact Bool.false_ne_true
  calc
    (Text.trim cs).countP test = (front ++ (Text.trim cs ++ back)).countP test := by
      rw [List.countP_append, List.countP_append, lost front blankFront, lost back blankBack]
      omega
    _ = cs.countP test := by rw [← split]

theorem count_trim {c : Char} (visible : Text.isBlank c = false) (cs : List Char) :
    (Text.trim cs).count c = cs.count c := by
  apply countP_trim
  intro d blank
  rw [beq_eq_false_iff_ne]
  rintro rfl
  exact Bool.false_ne_true (visible.symm.trans blank)

/-- Some text at the end makes no difference exactly when it is all blanks. -/
theorem trim_append_eq_iff {held lost : List Char} :
    Text.trim (held ++ lost) = Text.trim held ↔ ∀ c ∈ lost, Text.isBlank c = true := by
  constructor
  · intro same
    have visible : ∀ c, Text.isBlank c = true → (!Text.isBlank c) = false := by
      intro c blank
      rw [blank]
      rfl
    have counts := congrArg (List.countP (!Text.isBlank ·)) same
    rw [countP_trim visible, countP_trim visible, List.countP_append] at counts
    have none : lost.countP (!Text.isBlank ·) = 0 := by omega
    simpa [List.countP_eq_zero] using none
  · intro blank
    exact trim_padded (List.forall_mem_nil _) blank held

/-! ### Dividing a text once -/

section

variable {mark : List Char} (nonempty : mark ≠ [])

include nonempty

/-- A text is not divided exactly when the mark does not occur in it. -/
theorem splitOnce_eq_none_iff_absent {cs : List Char} :
    Text.splitOnce mark cs = none ↔ ¬ mark <:+: cs := by
  induction cs with
  | nil => simp [Text.splitOnce, nonempty]
  | cons c rest inductionHypothesis =>
      rw [Text.splitOnce, List.infix_cons_iff, not_or, ← inductionHypothesis]
      split
      · next here => simp [List.isPrefixOf_iff_prefix.mp here]
      · next elsewhere =>
          rw [List.isPrefixOf_iff_prefix] at elsewhere
          simp [elsewhere]

/-- A text is divided at the first occurrence of the mark: none begins further to the left. -/
theorem splitOnce_eq_some_iff_first {cs left right : List Char} :
    Text.splitOnce mark cs = some (left, right) ↔
      cs = left ++ (mark ++ right) ∧ ¬ mark <:+: left ++ mark.dropLast := by
  -- A mark that begins further to the left ends before the last character of this one.
  have ahead : ∀ front : List Char, front ++ mark.dropLast <+: front ++ (mark ++ right) := by
    intro front
    rw [List.prefix_append_right_inj]
    exact (List.dropLast_prefix mark).trans (List.prefix_append mark right)
  have length : mark.dropLast.length + 1 = mark.length := by
    rw [List.length_dropLast]
    exact Nat.sub_add_cancel (List.length_pos_iff.mpr nonempty)
  induction cs generalizing left with
  | nil => simp [Text.splitOnce, nonempty]
  | cons c rest inductionHypothesis =>
      rw [Text.splitOnce]
      split
      · next here =>
          rw [List.isPrefixOf_iff_prefix] at here
          constructor
          · rintro ⟨⟩
            refine ⟨List.prefix_append_drop here, ?_⟩
            intro inside
            have fits : mark.length ≤ mark.dropLast.length := inside.length_le
            omega
          · rintro ⟨split, first⟩
            cases left with
            | nil =>
                rw [split]
                simp
            | cons d others =>
                rw [split] at here
                have early : mark <+: d :: others ++ mark.dropLast := by
                  apply List.prefix_of_prefix_length_le here (ahead _)
                  rw [List.length_append, List.length_cons]
                  omega
                exact absurd early.isInfix first
      · next elsewhere =>
          rw [List.isPrefixOf_iff_prefix] at elsewhere
          rw [Option.map_eq_some_iff]
          constructor
          · rintro ⟨⟨before, after⟩, found, same⟩
            cases same
            obtain ⟨rfl, first⟩ := inductionHypothesis.mp found
            refine ⟨rfl, ?_⟩
            rw [List.cons_append, List.infix_cons_iff, not_or]
            exact ⟨fun early => elsewhere (early.trans (ahead (c :: before))), first⟩
          · rintro ⟨split, first⟩
            cases left with
            | nil => exact absurd (split ▸ List.prefix_append _ _) elsewhere
            | cons d others =>
                cases split
                refine ⟨(others, right), inductionHypothesis.mpr ⟨rfl, ?_⟩, rfl⟩
                exact fun inside => first (inside.trans (List.suffix_cons _ _).isInfix)

end

section

variable {mark : Char}

theorem takeWhile_of_not_mem {cs : List Char} (absent : mark ∉ cs) :
    cs.takeWhile (· != mark) = cs := by
  rw [List.takeWhile_eq_self_iff]
  intro c member
  rw [bne_iff_ne]
  intro same
  exact absent (same ▸ member)

theorem splitOnce_eq_none_iff {cs : List Char} :
    Text.splitOnce [mark] cs = none ↔ mark ∉ cs := by
  rw [splitOnce_eq_none_iff_absent (List.cons_ne_nil _ _), List.singleton_infix_iff]

theorem splitOnce_eq_some_iff {cs left right : List Char} :
    Text.splitOnce [mark] cs = some (left, right) ↔ cs = left ++ mark :: right ∧ mark ∉ left := by
  rw [splitOnce_eq_some_iff_first (List.cons_ne_nil _ _), List.dropLast_singleton,
    List.append_nil, List.singleton_infix_iff, List.singleton_append]

end

end Synopsis
