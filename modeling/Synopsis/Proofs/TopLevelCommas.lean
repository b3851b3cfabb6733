/-
Module: Synopsis.Proofs.TopLevelCommas
Purpose: Which commas separate the arguments of a list, said of the text in front of a comma.  The
  text must end outside its double-quoted strings, and the brackets outside its strings must be
  closed.  Cutting at exactly these commas loses nothing, and the arguments that are found are
  found again in the text that joins them.
Main exports:
  StringBody, Outside, depthOf, TopLevel, intercalate_cutTopLevel, topLevel_iff_separates,
  separates_iff_between_pieces, splitTopLevel_cuts_at_top_level_commas
-/
import Synopsis.Proofs.Separation

namespace Synopsis.Text

/-! ### The text in front of a comma -/

/-- The inside of a double-quoted string.  A backslash takes the next character along, and no other
quote or backslash stands in it. -/
inductive StringBody : List Char → Prop where
  | nil : StringBody []
  | plain {c : Char} {rest : List Char} (notQuote : c ≠ '\x22') (notBackslash : c ≠ '\\')
      (body : StringBody rest) : StringBody (c :: rest)
  | escape {c : Char} {rest : List Char} (body : StringBody rest) : StringBody ('\\' :: c :: rest)

/-- A text in which every string that is opened is also closed, and what stands outside its
strings. -/
inductive Outside : List Char → List Char → Prop where
  | nil : Outside [] []
  | plain {c : Char} {text bare : List Char} (notQuote : c ≠ '\x22') (rest : Outside text bare) :
      Outside (c :: text) (c :: bare)
  | string {body text bare : List Char} (closed : StringBody body) (rest : Outside text bare) :
      Outside ('\x22' :: (body ++ '\x22' :: text)) bare

/-- The bracket depth after one more character, which is never below zero. -/
def deepen (depth : Nat) (c : Char) : Nat :=
  if c ∈ ['(', '[', '\x7b', '<'] then depth + 1
  else if c ∈ [')', ']', '\x7d', '>'] then depth - 1
  else depth

/-- The bracket depth at the end of a text without strings. -/
def depthOf (bare : List Char) : Nat :=
  bare.foldl deepen 0

/-- Whether the end of a text is outside its strings and outside its brackets. -/
def TopLevel (before : List Char) : Prop :=
  ∃ bare, Outside before bare ∧ depthOf bare = 0

/-! ### The scan and the text in front -/

namespace Scan

/-- The scan outside strings at some depth. -/
def outside (depth : Nat) : Scan :=
  { depth, quoted := false, escaped := false }

/-- The scan inside a string at some depth. -/
def inside (depth : Nat) (escaped : Bool) : Scan :=
  { depth, quoted := true, escaped }

theorem step_outside_of_ne {c : Char} (notQuote : c ≠ '\x22') (depth : Nat) :
    (outside depth).step c = outside (deepen depth c) := by
  simp only [step, outside, opens, closes, deepen, List.mem_cons, List.not_mem_nil, or_false,
    beq_iff_eq, Bool.or_eq_true, notQuote, if_false, Bool.false_eq_true, or_assoc]
  split
  · rfl
  split <;> rfl

theorem step_outside_quote (depth : Nat) : (outside depth).step '\x22' = inside depth false := rfl

theorem step_inside_of_ne {c : Char} (notQuote : c ≠ '\x22') (notBackslash : c ≠ '\\')
    (depth : Nat) : (inside depth false).step c = inside depth false := by
  simp [step, inside, notQuote, notBackslash]

theorem step_inside_backslash (depth : Nat) :
    (inside depth false).step '\\' = inside depth true := rfl

theorem step_inside_escaped (depth : Nat) (c : Char) :
    (inside depth true).step c = inside depth false := rfl

theorem step_inside_quote (depth : Nat) :
    (inside depth false).step '\x22' = outside depth := rfl

theorem run_cons (scan : Scan) (c : Char) (cs : List Char) :
    scan.run (c :: cs) = (scan.step c).run cs :=
  rfl

/-- The inside of a string leaves the scan inside. -/
theorem run_stringBody {body : List Char} (closed : StringBody body) (depth : Nat) :
    (inside depth false).run body = inside depth false := by
  induction closed with
  | nil => rfl
  | plain notQuote notBackslash _ inductionHypothesis =>
      rw [run_cons, step_inside_of_ne notQuote notBackslash, inductionHypothesis]
  | escape _ inductionHypothesis =>
      rw [run_cons, run_cons, step_inside_backslash, step_inside_escaped, inductionHypothesis]

/-- Over a text with closed strings the scan counts the brackets outside them. -/
theorem run_of_outside {text bare : List Char} (split : Outside text bare) (depth : Nat) :
    (outside depth).run text = outside (bare.foldl deepen depth) := by
  induction split generalizing depth with
  | nil => rfl
  | plain notQuote _ inductionHypothesis =>
      rw [run_cons, step_outside_of_ne notQuote, inductionHypothesis, List.foldl_cons]
  | string closed _ inductionHypothesis =>
      rw [run_cons, step_outside_quote, run_append, run_stringBody closed, run_cons,
        step_inside_quote, inductionHypothesis]

/-- A text that the scan leaves outside strings has closed strings.  A scan that begins inside a
string first passes the rest of that string. -/
theorem exists_outside_of_run (text : List Char) :
    (∀ depth, ((outside depth).run text).quoted = false → ∃ bare, Outside text bare) ∧
    (∀ depth, ((inside depth false).run text).quoted = false →
      ∃ body rest bare, text = body ++ '\x22' :: rest ∧ StringBody body ∧ Outside rest bare) ∧
    (∀ depth, ((inside depth true).run text).quoted = false →
      ∃ c body rest bare, text = c :: (body ++ '\x22' :: rest) ∧ StringBody body ∧
        Outside rest bare) := by
  induction text with
  | nil =>
      refine ⟨fun _ _ => ⟨[], .nil⟩, ?_, ?_⟩
      · intro depth left
        cases left
      · intro depth left
        cases left
  | cons c text inductionHypothesis =>
      obtain ⟨fromOutside, fromInside, fromEscaped⟩ := inductionHypothesis
      refine ⟨?_, ?_, ?_⟩
      · intro depth left
        rw [run_cons] at left
        by_cases quote : c = '\x22'
        · subst quote
          obtain ⟨body, rest, bare, rfl, closed, split⟩ := fromInside depth left
          exact ⟨bare, .string closed split⟩
        · rw [step_outside_of_ne quote] at left
          obtain ⟨bare, split⟩ := fromOutside _ left
          exact ⟨c :: bare, .plain quote split⟩
      · intro depth left
        rw [run_cons] at left
        by_cases quote : c = '\x22'
        · subst quote
          obtain ⟨bare, split⟩ := fromOutside depth left
          exact ⟨[], text, bare, rfl, .nil, split⟩
        by_cases backslash : c = '\\'
        · subst backslash
          obtain ⟨taken, body, rest, bare, rfl, closed, split⟩ := fromEscaped depth left
          exact ⟨'\\' :: taken :: body, rest, bare, rfl, .escape closed, split⟩
        · rw [step_inside_of_ne quote backslash] at left
          obtain ⟨body, rest, bare, rfl, closed, split⟩ := fromInside depth left
          exact ⟨c :: body, rest, bare, rfl, .plain quote backslash closed, split⟩
      · intro depth left
        rw [run_cons, step_inside_escaped] at left
        obtain ⟨body, rest, bare, rfl, closed, split⟩ := fromInside depth left
        exact ⟨c, body, rest, bare, rfl, closed, split⟩

theorem separates_comma_iff {scan : Scan} :
    scan.separates ',' = true ↔ scan.quoted = false ∧ scan.depth = 0 := by
  simp [separates]

end Scan

/-- A comma separates exactly when the text in front of it ends at the top level. -/
theorem topLevel_iff_separates {before : List Char} :
    TopLevel before ↔ (Scan.start.run before).separates ',' = true := by
  rw [Scan.separates_comma_iff]
  constructor
  · rintro ⟨bare, split, closed⟩
    have reached : Scan.start.run before = Scan.outside (depthOf bare) :=
      Scan.run_of_outside split 0
    rw [reached]
    exact ⟨rfl, closed⟩
  · rintro ⟨left, closed⟩
    obtain ⟨bare, split⟩ := (Scan.exists_outside_of_run before).1 0 left
    have reached : Scan.start.run before = Scan.outside (depthOf bare) :=
      Scan.run_of_outside split 0
    rw [reached] at closed
    exact ⟨bare, split, closed⟩

instance (before : List Char) : Decidable (TopLevel before) :=
  decidable_of_iff _ topLevel_iff_separates.symm

/-! ### Where the pieces are cut -/

theorem cutTopLevel_ne_nil (scan : Scan) (cs : List Char) : cutTopLevel scan cs ≠ [] := by
  cases cs with
  | nil => exact List.cons_ne_nil _ _
  | cons c rest =>
      rw [cutTopLevel]
      split
      · exact List.cons_ne_nil _ _
      · cases cutTopLevel (scan.step c) rest <;> exact List.cons_ne_nil _ _

theorem intercalate_consHead {pieces : List (List Char)} (nonempty : pieces ≠ [])
    (mark : List Char) (c : Char) :
    mark.intercalate (consHead c pieces) = c :: mark.intercalate pieces := by
  obtain ⟨piece, rest, rfl⟩ := List.exists_cons_of_ne_nil nonempty
  exact List.intercalate_cons_cons_left

theorem eq_comma_of_separates {scan : Scan} {c : Char} (separates : scan.separates c = true) :
    c = ',' := by
  simp only [Scan.separates, Bool.and_eq_true, beq_iff_eq] at separates
  exact separates.2

/-- A separating comma leaves the scan as it is. -/
theorem step_of_separates {scan : Scan} {c : Char} (separates : scan.separates c = true) :
    scan.step c = scan := by
  obtain rfl := eq_comma_of_separates separates
  have outside := (Scan.separates_comma_iff.mp separates).1
  simp [Scan.step, outside, Scan.opens, Scan.closes]

/-- The pieces with their commas are the whole text. -/
theorem intercalate_cutTopLevel (scan : Scan) (cs : List Char) :
    [','].intercalate (cutTopLevel scan cs) = cs := by
  induction cs generalizing scan with
  | nil => rfl
  | cons c rest inductionHypothesis =>
      rw [cutTopLevel]
      split
      · next separates =>
          rw [List.intercalate_cons_of_ne_nil (cutTopLevel_ne_nil _ _), inductionHypothesis,
            eq_comma_of_separates separates]
          rfl
      · rw [intercalate_consHead (cutTopLevel_ne_nil _ _), inductionHypothesis]

/-- Whether a comma with the text `before` in front of it stands between two of the pieces. -/
def Between (pieces : List (List Char)) (before : List Char) : Prop :=
  ∃ left right, left ≠ [] ∧ right ≠ [] ∧ pieces = left ++ right ∧ before = [','].intercalate left

section

variable {pieces : List (List Char)} (nonempty : pieces ≠ [])

include nonempty

theorem between_nil_cons_nil : Between ([] :: pieces) [] :=
  ⟨[[]], pieces, List.cons_ne_nil _ _, nonempty, rfl, rfl⟩

/-- Past an empty first piece and its comma. -/
theorem between_nil_cons_iff {before : List Char} :
    Between ([] :: pieces) (',' :: before) ↔ Between pieces before := by
  constructor
  · rintro ⟨left, right, someLeft, someRight, split, same⟩
    obtain ⟨piece, left, rfl⟩ := List.exists_cons_of_ne_nil someLeft
    obtain ⟨rfl, rfl⟩ := List.cons.inj split
    -- The comma of `before` comes after the first piece, so there is another piece before it.
    have more : left ≠ [] := by
      rintro rfl
      cases same
    rw [List.intercalate_cons_of_ne_nil more] at same
    exact ⟨left, right, more, someRight, rfl, (List.cons.inj same).2⟩
  · rintro ⟨left, right, someLeft, someRight, rfl, rfl⟩
    refine ⟨[] :: left, right, List.cons_ne_nil _ _, someRight, rfl, ?_⟩
    rw [List.intercalate_cons_of_ne_nil someLeft]
    rfl

theorem not_between_consHead_nil (c : Char) : ¬ Between (consHead c pieces) [] := by
  rintro ⟨left, right, someLeft, -, split, same⟩
  obtain ⟨piece, others, rfl⟩ := List.exists_cons_of_ne_nil nonempty
  obtain ⟨first, left, rfl⟩ := List.exists_cons_of_ne_nil someLeft
  obtain ⟨rfl, -⟩ := List.cons.inj split
  rw [List.intercalate_cons_cons_left] at same
  cases same

/-- Past a character of the first piece. -/
theorem between_consHead_iff {c : Char} {before : List Char} :
    Between (consHead c pieces) (c :: before) ↔ Between pieces before := by
  obtain ⟨piece, others, rfl⟩ := List.exists_cons_of_ne_nil nonempty
  constructor
  · rintro ⟨left, right, someLeft, someRight, split, same⟩
    obtain ⟨first, left, rfl⟩ := List.exists_cons_of_ne_nil someLeft
    obtain ⟨rfl, rfl⟩ := List.cons.inj split
    rw [List.intercalate_cons_cons_left] at same
    exact ⟨piece :: left, right, List.cons_ne_nil _ _, someRight, rfl, (List.cons.inj same).2⟩
  · rintro ⟨left, right, someLeft, someRight, split, rfl⟩
    obtain ⟨first, left, rfl⟩ := List.exists_cons_of_ne_nil someLeft
    obtain ⟨rfl, rfl⟩ := List.cons.inj split
    exact ⟨(c :: piece) :: left, right, List.cons_ne_nil _ _, someRight, rfl,
      List.intercalate_cons_cons_left.symm⟩

end

/-- A comma of a text stands between two pieces exactly when it separates for the scan that has
passed the text in front of it. -/
theorem separates_iff_between_pieces {scan : Scan} {cs before after : List Char}
    (position : cs = before ++ ',' :: after) :
    (scan.run before).separates ',' = true ↔ Between (cutTopLevel scan cs) before := by
  induction cs generalizing scan before with
  | nil => cases before <;> cases position
  | cons c rest inductionHypothesis =>
      have some := cutTopLevel_ne_nil
      rw [cutTopLevel]
      split
      · next separates =>
          obtain rfl := eq_comma_of_separates separates
          cases before with
          | nil => exact iff_of_true separates (between_nil_cons_nil (some _ _))
          | cons d before =>
              obtain ⟨rfl, later⟩ := List.cons.inj position
              rw [Scan.run_cons, step_of_separates separates, between_nil_cons_iff (some _ _)]
              exact inductionHypothesis later
      · next inside =>
          cases before with
          | nil =>
              obtain ⟨rfl, -⟩ := List.cons.inj position
              exact iff_of_false inside (not_between_consHead_nil (some _ _) ',')
          | cons d before =>
              obtain ⟨rfl, later⟩ := List.cons.inj position
              rw [Scan.run_cons, between_consHead_iff (some _ _)]
              exact inductionHypothesis later

/-- Splitting an argument list loses nothing, invents nothing and is stable.  The text is a list of
pieces with commas between them, and these are exactly the commas that a scan from the left reaches
outside strings and brackets; the arguments are the trimmed pieces in order, empty ones left out.
Joined again, they are split into the same arguments. -/
theorem splitTopLevel_cuts_at_top_level_commas (cs : List Char) :
    (∃ pieces : List (List Char), pieces ≠ [] ∧ cs = [','].intercalate pieces ∧
      (∀ before after, cs = before ++ ',' :: after →
        (TopLevel before ↔ Between pieces before)) ∧
      splitTopLevel cs = (pieces.map trim).filter (!·.isEmpty)) ∧
    splitTopLevel ([',', ' '].intercalate (splitTopLevel cs)) = splitTopLevel cs := by
  constructor
  · refine ⟨cutTopLevel Scan.start cs, cutTopLevel_ne_nil _ _,
      (intercalate_cutTopLevel Scan.start cs).symm, ?_, rfl⟩
    intro before after position
    rw [topLevel_iff_separates]
    exact separates_iff_between_pieces position
  · rw [splitTopLevel_intercalate (separable_splitTopLevel cs)]
    have kept : (splitTopLevel cs).map trim = (splitTopLevel cs).map id :=
      List.map_congr_left fun piece member => (trim_of_mem_splitTopLevel member).1
    rw [kept, List.map_id, List.filter_eq_self]
    intro piece member
    simpa using (trim_of_mem_splitTopLevel member).2

/-- An argument list with a bracket inside a string, a comma inside brackets, and a call that is not
closed. -/
def unclosedCall : List Char :=
  "f(a, \")\") , b,, g(c, d".toList

/-- The unclosed call is cut behind its first call and not inside it, and stays as it is when its
arguments are joined. -/
theorem arguments_of_unclosedCall :
    (∃ pieces, unclosedCall = [','].intercalate pieces ∧
      Between pieces "f(a, \")\") ".toList ∧ ¬ Between pieces "f(a".toList) ∧
    splitTopLevel unclosedCall = ["f(a, \")\")".toList, "b".toList, "g(c, d".toList] ∧
    splitTopLevel "f(a, \")\"), b, g(c, d".toList = splitTopLevel unclosedCall := by
  obtain ⟨⟨pieces, -, whole, commas, -⟩, again⟩ :=
    splitTopLevel_cuts_at_top_level_commas unclosedCall
  have split : splitTopLevel unclosedCall =
      ["f(a, \")\")".toList, "b".toList, "g(c, d".toList] := by decide +kernel
  refine ⟨⟨pieces, whole, ?_, ?_⟩, split, ?_⟩
  · exact (commas _ " b,, g(c, d".toList (by decide +kernel)).mp (by decide +kernel)
  · rw [← commas _ " \")\") , b,, g(c, d".toList (by decide +kernel)]
    decide +kernel
  · rw [split] at again
    exact again.trans split.symm

end Synopsis.Text
