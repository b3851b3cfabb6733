/-
Module: Synopsis.Proofs.Separation
Purpose: Where an argument list is separated.  The pieces of a text can be read one by one: no
  comma inside a piece separates, and after each piece but the last the scan is back at its start.
  Pieces of this kind are found again when they are joined with commas.
Main exports:
  Scan.run, Scan.passes, marks, Separable, separable_splitTopLevel, splitTopLevel_intercalate,
  count_flatten_splitTopLevel, trim_of_mem_splitTopLevel, splitTopLevel_eq_nil_iff
-/
import Synopsis.Proofs.Trimming
import Synopsis.Text.Pieces

namespace Synopsis.Text

/-! ### Runs of the scan -/

namespace Scan

/-- Move the scan over a text. -/
def run (scan : Scan) (cs : List Char) : Scan :=
  cs.foldl step scan

/-- Whether no comma of a text separates. -/
def passes (scan : Scan) : List Char → Bool
  | [] => true
  | c :: cs => !scan.separates c && (scan.step c).passes cs

theorem run_append (scan : Scan) (left right : List Char) :
    scan.run (left ++ right) = (scan.run left).run right :=
  List.foldl_append

theorem passes_append (scan : Scan) (left right : List Char) :
    scan.passes (left ++ right) = (scan.passes left && (scan.run left).passes right) := by
  induction left generalizing scan with
  | nil => rfl
  | cons c rest inductionHypothesis =>
      rw [List.cons_append, passes, passes, inductionHypothesis, Bool.and_assoc]
      rfl

/-- Outside strings nothing is escaped. -/
def Sound (scan : Scan) : Prop :=
  scan.quoted = false → scan.escaped = false

theorem sound_start : start.Sound := fun _ => rfl

theorem Sound.step {scan : Scan} (sound : scan.Sound) (c : Char) : (scan.step c).Sound := by
  obtain ⟨depth, quoted, escaped⟩ := scan
  unfold Scan.step
  dsimp only [Sound] at sound ⊢
  grind

/-- Where a comma separates, the scan is at its start. -/
theorem Sound.eq_start {scan : Scan} (sound : scan.Sound) {c : Char}
    (separates : scan.separates c = true) : scan = start := by
  obtain ⟨depth, quoted, escaped⟩ := scan
  simp only [Scan.separates, Bool.and_eq_true, Bool.not_eq_true', beq_iff_eq] at separates
  obtain ⟨⟨rfl, rfl⟩, -⟩ := separates
  have unescaped : escaped = false := sound rfl
  rw [unescaped]
  rfl

end Scan

/-! ### Characters that the scan passes over -/

/-- The characters that mean something to a scan outside strings. -/
def marks : List Char :=
  ['\x22', '(', '[', '\x7b', '<', ')', ']', '\x7d', '>', ',']

theorem not_mem_marks_of_isBlank {c : Char} (blank : isBlank c = true) : c ∉ marks := by
  have visible : marks.any isBlank = false := by decide
  intro member
  exact List.any_eq_false.mp visible c member blank

namespace Scan

variable {scan : Scan} {cs : List Char}

theorem step_of_not_mem_marks (outside : scan.quoted = false) {c : Char} (plain : c ∉ marks) :
    scan.step c = scan := by
  simp only [marks, List.mem_cons, List.not_mem_nil, or_false, not_or] at plain
  simp [step, opens, closes, outside, plain]

theorem separates_of_not_mem_marks {c : Char} (plain : c ∉ marks) :
    scan.separates c = false := by
  simp only [marks, List.mem_cons, List.not_mem_nil, or_false, not_or] at plain
  simp [separates, plain]

theorem run_of_plain (outside : scan.quoted = false) (plain : ∀ c ∈ cs, c ∉ marks) :
    scan.run cs = scan := by
  induction cs with
  | nil => rfl
  | cons c rest inductionHypothesis =>
      rw [List.forall_mem_cons] at plain
      rw [run, List.foldl_cons, step_of_not_mem_marks outside plain.1]
      exact inductionHypothesis plain.2

theorem passes_of_plain (outside : scan.quoted = false) (plain : ∀ c ∈ cs, c ∉ marks) :
    scan.passes cs = true := by
  induction cs with
  | nil => rfl
  | cons c rest inductionHypothesis =>
      rw [List.forall_mem_cons] at plain
      rw [passes, separates_of_not_mem_marks plain.1, step_of_not_mem_marks outside plain.1,
        inductionHypothesis plain.2]
      rfl

/-- Blanks neither open a string nor close one. -/
theorem quoted_run_of_isBlank (blank : ∀ c ∈ cs, isBlank c = true) :
    (scan.run cs).quoted = scan.quoted := by
  induction cs generalizing scan with
  | nil => rfl
  | cons c rest inductionHypothesis =>
      rw [List.forall_mem_cons] at blank
      have same : (scan.step c).quoted = scan.quoted := by
        have notQuote : c ≠ '\x22' := fun isQuote =>
          not_mem_marks_of_isBlank blank.1 (isQuote ▸ List.mem_cons_self)
        cases quoted : scan.quoted with
        | true =>
            unfold step
            grind
        | false => rw [step_of_not_mem_marks quoted (not_mem_marks_of_isBlank blank.1), quoted]
      rw [run, List.foldl_cons, ← same]
      exact inductionHypothesis blank.2

/-- A scan that is at its start after some blanks was there before them. -/
theorem eq_start_of_run_eq_start (blank : ∀ c ∈ cs, isBlank c = true)
    (returns : scan.run cs = start) : scan = start := by
  have outside : scan.quoted = false := by
    rw [← quoted_run_of_isBlank blank, returns]
    rfl
  rw [← returns, run_of_plain outside fun c member => not_mem_marks_of_isBlank (blank c member)]

theorem passes_trim (passes : start.passes cs = true) : start.passes (trim cs) = true := by
  obtain ⟨front, back, split, blank, -⟩ := exists_trim_eq cs
  rw [split, passes_append, passes_append,
    run_of_plain rfl fun c member => not_mem_marks_of_isBlank (blank c member)] at passes
  simp only [Bool.and_eq_true] at passes
  exact passes.2.1

theorem run_trim (returns : start.run cs = start) : start.run (trim cs) = start := by
  obtain ⟨front, back, split, blankFront, blankBack⟩ := exists_trim_eq cs
  rw [split, run_append, run_append,
    run_of_plain rfl fun c member => not_mem_marks_of_isBlank (blankFront c member)] at returns
  exact eq_start_of_run_eq_start blankBack returns

end Scan

/-! ### Pieces that can be read one by one -/

/-- Texts in which no comma separates, each but the last with the scan at its start when it ends. -/
inductive Separable : List (List Char) → Prop where
  | nil : Separable []
  | cons {piece : List Char} {others : List (List Char)}
      (passes : Scan.start.passes piece = true)
      (returns : others ≠ [] → Scan.start.run piece = Scan.start)
      (rest : Separable others) : Separable (piece :: others)

namespace Separable

variable {pieces : List (List Char)}

/-- Pieces may be changed one by one, as long as the scan gets through them as before. -/
theorem map {change : List Char → List Char}
    (passes : ∀ piece, Scan.start.passes piece = true → Scan.start.passes (change piece) = true)
    (returns : ∀ piece, Scan.start.run piece = Scan.start →
      Scan.start.run (change piece) = Scan.start)
    (separable : Separable pieces) : Separable (pieces.map change) := by
  induction separable with
  | nil => exact .nil
  | cons passesPiece returnsPiece _ inductionHypothesis =>
      refine .cons (passes _ passesPiece) ?_ inductionHypothesis
      intro more
      exact returns _ (returnsPiece fun none => more (by rw [none]; rfl))

/-- Pieces may be left out. -/
theorem filter (test : List Char → Bool) (separable : Separable pieces) :
    Separable (pieces.filter test) := by
  induction separable with
  | nil => exact .nil
  | @cons piece others passes returns _ inductionHypothesis =>
      cases kept : test piece with
      | false =>
          rw [List.filter_cons_of_neg (by simp [kept])]
          exact inductionHypothesis
      | true =>
          rw [List.filter_cons_of_pos kept]
          refine .cons passes ?_ inductionHypothesis
          intro more
          exact returns fun none => more (by rw [none]; rfl)

end Separable

/-- The first piece goes on from where the scan is, and all others start anew. -/
theorem exists_cutTopLevel_eq {scan : Scan} (sound : scan.Sound) (cs : List Char) :
    ∃ first others, cutTopLevel scan cs = first :: others ∧ scan.passes first = true ∧
      (others ≠ [] → scan.run first = Scan.start) ∧ Separable others := by
  induction cs generalizing scan with
  | nil => exact ⟨[], [], rfl, rfl, fun more => absurd rfl more, .nil⟩
  | cons c rest inductionHypothesis =>
      rw [cutTopLevel]
      split
      · next separates =>
          obtain rfl := sound.eq_start separates
          obtain ⟨first, others, cut, passes, returns, separable⟩ := inductionHypothesis sound
          exact ⟨[], first :: others, by rw [cut], rfl, fun _ => rfl,
            .cons passes returns separable⟩
      · next inside =>
          obtain ⟨first, others, cut, passes, returns, separable⟩ :=
            inductionHypothesis (sound.step c)
          refine ⟨c :: first, others, by rw [cut, consHead], ?_, returns, separable⟩
          rw [Scan.passes, passes, eq_false_of_ne_true inside]
          rfl

theorem separable_cutTopLevel (cs : List Char) : Separable (cutTopLevel Scan.start cs) := by
  obtain ⟨first, others, cut, passes, returns, separable⟩ :=
    exists_cutTopLevel_eq Scan.sound_start cs
  rw [cut]
  exact .cons passes returns separable

/-- The arguments of a text can be read one by one. -/
theorem separable_splitTopLevel (cs : List Char) : Separable (splitTopLevel cs) :=
  ((separable_cutTopLevel cs).map (fun _ => Scan.passes_trim) fun _ => Scan.run_trim).filter _

/-! ### Pieces that are joined -/

theorem cutTopLevel_of_passes {scan : Scan} {cs : List Char} (passes : scan.passes cs = true) :
    cutTopLevel scan cs = [cs] := by
  induction cs generalizing scan with
  | nil => rfl
  | cons c rest inductionHypothesis =>
      rw [Scan.passes, Bool.and_eq_true, Bool.not_eq_true'] at passes
      rw [cutTopLevel, if_neg (ne_true_of_eq_false passes.1), inductionHypothesis passes.2,
        consHead]

theorem cutTopLevel_append_comma {scan : Scan} {left : List Char}
    (passes : scan.passes left = true) (returns : scan.run left = Scan.start)
    (right : List Char) :
    cutTopLevel scan (left ++ ',' :: right) = left :: cutTopLevel Scan.start right := by
  induction left generalizing scan with
  | nil =>
      obtain rfl : scan = Scan.start := returns
      rfl
  | cons c rest inductionHypothesis =>
      rw [Scan.passes, Bool.and_eq_true, Bool.not_eq_true'] at passes
      rw [List.cons_append, cutTopLevel, if_neg (ne_true_of_eq_false passes.1),
        inductionHypothesis passes.2 returns, consHead]

/-- Blanks in front of a text are no part of its arguments. -/
theorem splitTopLevel_cons_of_isBlank {c : Char} (blank : isBlank c = true) (cs : List Char) :
    splitTopLevel (c :: cs) = splitTopLevel cs := by
  have plain := not_mem_marks_of_isBlank blank
  obtain ⟨first, others, cut, -⟩ := exists_cutTopLevel_eq Scan.sound_start cs
  rw [splitTopLevel, cutTopLevel, Scan.separates_of_not_mem_marks plain,
    Scan.step_of_not_mem_marks rfl plain, if_neg Bool.false_ne_true, cut, consHead, splitTopLevel,
    cut, List.map_cons, trim_cons_of_isBlank blank]
  rfl

/-- Pieces that can be read one by one are the arguments of the text that joins them, up to blanks
and empty pieces. -/
theorem splitTopLevel_intercalate {pieces : List (List Char)} (separable : Separable pieces) :
    splitTopLevel ([',', ' '].intercalate pieces) = (pieces.map trim).filter (!·.isEmpty) := by
  induction separable with
  | nil => rfl
  | @cons piece others passes returns _ inductionHypothesis =>
      cases others with
      | nil =>
          rw [List.intercalate_singleton, splitTopLevel, cutTopLevel_of_passes passes]
      | cons next rest =>
          have returned := returns (List.cons_ne_nil next rest)
          rw [List.intercalate_cons_cons, List.append_assoc, List.cons_append, List.cons_append,
            List.nil_append, splitTopLevel, cutTopLevel_append_comma passes returned, List.map_cons,
            List.map_cons, List.filter_cons, List.filter_cons]
          have tail : ((cutTopLevel Scan.start (' ' :: [',', ' '].intercalate (next :: rest))).map
              trim).filter (!·.isEmpty) = ((next :: rest).map trim).filter (!·.isEmpty) := by
            rw [← inductionHypothesis]
            exact splitTopLevel_cons_of_isBlank (by decide) _
          rw [tail]

/-! ### What the pieces hold -/

theorem count_flatten_consHead (c d : Char) (pieces : List (List Char)) :
    (consHead d pieces).flatten.count c = (d :: pieces.flatten).count c := by
  cases pieces with
  | nil => rfl
  | cons piece others => rfl

/-- Cutting a text loses nothing but commas. -/
theorem count_flatten_cutTopLevel {c : Char} (noComma : c ≠ ',') (scan : Scan) (cs : List Char) :
    (cutTopLevel scan cs).flatten.count c = cs.count c := by
  induction cs generalizing scan with
  | nil => rfl
  | cons d rest inductionHypothesis =>
      rw [cutTopLevel]
      split
      · next separates =>
          have isComma : d = ',' := by
            simp only [Scan.separates, Bool.and_eq_true, beq_iff_eq] at separates
            exact separates.2
          rw [List.flatten_cons, List.nil_append, inductionHypothesis,
            List.count_cons_of_ne (by simpa [isComma] using noComma.symm)]
      · rw [count_flatten_consHead, List.count_cons, List.count_cons, inductionHypothesis]

/-- The arguments of a text have every character of it as often as the text, commas and blanks
apart. -/
theorem count_flatten_splitTopLevel {c : Char} (visible : isBlank c = false) (noComma : c ≠ ',')
    (cs : List Char) : (splitTopLevel cs).flatten.count c = cs.count c := by
  rw [splitTopLevel, List.flatten_filter_not_isEmpty, List.count_flatten, List.map_map]
  have trimmed : (cutTopLevel Scan.start cs).map (List.count c ∘ trim) =
      (cutTopLevel Scan.start cs).map (List.count c) :=
    List.map_congr_left fun piece _ => count_trim visible piece
  rw [trimmed, ← List.count_flatten, count_flatten_cutTopLevel noComma]

/-- Arguments of a text are trimmed and not empty. -/
theorem trim_of_mem_splitTopLevel {cs piece : List Char} (member : piece ∈ splitTopLevel cs) :
    trim piece = piece ∧ piece ≠ [] := by
  rw [splitTopLevel, List.mem_filter, List.mem_map] at member
  obtain ⟨⟨raw, -, rfl⟩, nonempty⟩ := member
  exact ⟨trim_trim raw, by simpa using nonempty⟩

/-- In a text of blanks and commas all pieces are blank. -/
theorem isBlank_of_mem_cutTopLevel {cs : List Char}
    (empty : ∀ c ∈ cs, isBlank c = true ∨ c = ',') :
    ∀ piece ∈ cutTopLevel Scan.start cs, ∀ c ∈ piece, isBlank c = true := by
  induction cs with
  | nil => simp [cutTopLevel]
  | cons c rest inductionHypothesis =>
      rw [List.forall_mem_cons] at empty
      have others := inductionHypothesis empty.2
      rcases empty.1 with blank | rfl
      · have plain := not_mem_marks_of_isBlank blank
        rw [cutTopLevel, if_neg (by simp [Scan.separates_of_not_mem_marks plain]),
          Scan.step_of_not_mem_marks rfl plain]
        cases cut : cutTopLevel Scan.start rest with
        | nil => simpa [consHead] using blank
        | cons piece pieces =>
            rw [cut, List.forall_mem_cons] at others
            rw [consHead, List.forall_mem_cons, List.forall_mem_cons]
            exact ⟨⟨blank, others.1⟩, others.2⟩
      · rw [cutTopLevel, if_pos (by rfl), List.forall_mem_cons]
        exact ⟨List.forall_mem_nil _, others⟩

/-- A text has no arguments exactly when it is all blanks and commas. -/
theorem splitTopLevel_eq_nil_iff {cs : List Char} :
    splitTopLevel cs = [] ↔ ∀ c ∈ cs, isBlank c = true ∨ c = ',' := by
  constructor
  · intro none c member
    by_contra other
    rw [not_or, Bool.not_eq_true] at other
    have counted := count_flatten_splitTopLevel other.1 other.2 cs
    rw [none] at counted
    exact List.count_eq_zero.mp counted.symm member
  · intro empty
    rw [splitTopLevel, List.filter_eq_nil_iff]
    intro piece member
    obtain ⟨verbatim, cut, rfl⟩ := List.mem_map.mp member
    have nothing : trim verbatim = [] :=
      trim_eq_nil_iff.mpr (isBlank_of_mem_cutTopLevel empty verbatim cut)
    simp [nothing]

end Synopsis.Text
