/-
Module: Synopsis.Proofs.Nesting
Purpose: Arguments and brackets.  A text is balanced when its round, square and curly brackets are
  properly nested and its strings are closed.  The scan of an argument list counts angle brackets
  together with these; as long as no angle bracket closes one of another shape, every argument of
  a balanced text is balanced.
Main exports:
  Quotation, Nesting, isBalanced, anglesPaired, Nesting.step_scan, isBalanced_trim,
  isBalanced_of_mem_cutTopLevel, balanced_arguments_of_paired_angles
-/
import Synopsis.Proofs.Separation

namespace Synopsis.Text

/-! ### Balanced texts -/

/-- Where a text stands with respect to its double-quoted strings. -/
inductive Quotation where
  | outside
  | inside
  /-- Inside a string, directly after a backslash that escapes. -/
  | escaped
deriving DecidableEq, Repr

/-- Only an unescaped quote opens or closes a string. -/
def Quotation.step : Quotation → Char → Quotation
  | .outside, c => if c = '\x22' then .inside else .outside
  | .inside, c => if c = '\\' then .escaped else if c = '\x22' then .outside else .inside
  | .escaped, _ => .inside

/-- The bracket that closes a round, square or curly bracket. -/
def closing? : Char → Option Char
  | '(' => some ')'
  | '[' => some ']'
  | '\x7b' => some '\x7d'
  | _ => none

/-- The closing brackets of the three shapes. -/
def closers : List Char :=
  [')', ']', '\x7d']

/-- What has been read of a text whose brackets are properly nested so far. -/
structure Nesting where
  quotation : Quotation
  /-- The closing brackets still to come, the next one first. -/
  awaited : List Char
deriving DecidableEq, Repr

namespace Nesting

/-- Nothing is open. -/
def start : Nesting :=
  { quotation := .outside, awaited := [] }

/-- The closing brackets still to come after a character outside strings.  A closing bracket that
is not the next one to come has no place there. -/
def await? (awaited : List Char) (c : Char) : Option (List Char) :=
  match closing? c with
  | some closer => some (closer :: awaited)
  | none =>
      if c ∈ closers then
        if awaited.head? = some c then some awaited.tail else none
      else some awaited

/-- Read one character, if brackets stay properly nested. -/
def step? (nesting : Nesting) (c : Char) : Option Nesting :=
  match nesting.quotation with
  | .outside =>
      (await? nesting.awaited c).map fun awaited =>
        { quotation := Quotation.outside.step c, awaited }
  | quotation => some { nesting with quotation := quotation.step c }

/-- Whether a text closes all that is open and nothing else. -/
def settles (nesting : Nesting) : List Char → Bool
  | [] => nesting = start
  | c :: cs => (nesting.step? c).any (·.settles cs)

end Nesting

/-- Whether the round, square and curly brackets outside strings are properly nested and closed,
and all strings are closed. -/
def isBalanced (cs : List Char) : Bool :=
  Nesting.start.settles cs

/-! ### Angle brackets -/

namespace Nesting

/-- The angle brackets that are open after one more character; a `>` with nothing to close
leaves them as they are. -/
def anglesAfter (nesting : Nesting) (angles : Nat) (c : Char) : Nat :=
  if nesting.quotation = .outside then
    if c = '<' then angles + 1 else if c = '>' then angles - 1 else angles
  else angles

/-- Whether `c` is no `>` that stands inside brackets and closes no angle bracket, such as the one
of an arrow or of a comparison. -/
def sparesBrackets (nesting : Nesting) (angles : Nat) (c : Char) : Bool :=
  c != '>' || nesting.quotation != .outside || nesting.awaited.isEmpty || angles != 0

/-- Whether all characters of a text that goes on from here are such. -/
def anglesPaired (nesting : Nesting) (angles : Nat) : List Char → Bool
  | [] => true
  | c :: cs =>
      nesting.sparesBrackets angles c &&
        (nesting.step? c).all (·.anglesPaired (nesting.anglesAfter angles c) cs)

end Nesting

/-- Whether every `>` that stands, outside strings, inside a round, square or curly bracket closes
an angle bracket. -/
def anglesPaired (cs : List Char) : Bool :=
  Nesting.start.anglesPaired 0 cs

/-! ### The scan follows the brackets -/

namespace Nesting

/-- The scan that has counted the awaited brackets and the open angle brackets. -/
def scan (nesting : Nesting) (angles : Nat) : Scan where
  depth := nesting.awaited.length + angles
  quoted := nesting.quotation ≠ .outside
  escaped := nesting.quotation = .escaped

theorem scan_start : start.scan 0 = Scan.start := rfl

theorem eq_start_of_separates {nesting : Nesting} {angles : Nat} {c : Char}
    (separates : (nesting.scan angles).separates c = true) :
    nesting = start ∧ angles = 0 ∧ c = ',' := by
  obtain ⟨quotation, awaited⟩ := nesting
  simp only [Scan.separates, scan, Bool.and_eq_true, Bool.not_eq_true', decide_eq_false_iff_not,
    not_not, beq_iff_eq, Nat.add_eq_zero_iff, List.length_eq_zero_iff] at separates
  obtain ⟨⟨rfl, rfl, rfl⟩, rfl⟩ := separates
  exact ⟨rfl, rfl, rfl⟩

theorem step?_of_not_mem_marks {nesting : Nesting} {c : Char}
    (outside : nesting.quotation = .outside) (plain : c ∉ marks) :
    nesting.step? c = some nesting := by
  obtain ⟨quotation, awaited⟩ := nesting
  obtain rfl : quotation = .outside := outside
  simp only [marks, List.mem_cons, List.not_mem_nil, or_false, not_or] at plain
  simp [step?, await?, closing?, closers, Quotation.step, plain]

/-- What a character outside strings can do to the brackets. -/
theorem await?_cases {awaited after : List Char} {c : Char} (read : await? awaited c = some after) :
    (∃ closer, closing? c = some closer ∧ after = closer :: awaited) ∨
      (c ∈ closers ∧ awaited = c :: after) ∨
      (closing? c = none ∧ c ∉ closers ∧ after = awaited) := by
  rw [await?] at read
  cases opens : closing? c with
  | some closer =>
      rw [opens] at read
      cases read
      exact .inl ⟨closer, rfl, rfl⟩
  | none =>
      rw [opens] at read
      dsimp only at read
      split_ifs at read with closes next
      · obtain ⟨others, rfl⟩ := List.head?_eq_some_iff.mp next
        cases read
        exact .inr (.inl ⟨closes, rfl⟩)
      · cases read
        exact .inr (.inr ⟨rfl, closes, rfl⟩)

theorem opens_iff {c : Char} : Scan.opens c = true ↔ closing? c ≠ none ∨ c = '<' := by
  unfold closing?
  split <;> simp_all [Scan.opens]

theorem closes_iff {c : Char} : Scan.closes c = true ↔ c ∈ closers ∨ c = '>' := by
  simp [Scan.closes, closers, or_assoc]

theorem ne_of_closing?_eq_some {c closer : Char} (opens : closing? c = some closer) :
    c ≠ '\x22' ∧ c ≠ '<' ∧ c ≠ '>' := by
  refine ⟨?_, ?_, ?_⟩ <;> rintro rfl <;> cases opens

theorem ne_of_mem_closers {c : Char} (closes : c ∈ closers) :
    closing? c = none ∧ c ≠ '\x22' ∧ c ≠ '<' ∧ c ≠ '>' := by
  simp only [closers, List.mem_cons, List.not_mem_nil, or_false] at closes
  obtain rfl | rfl | rfl := closes <;> decide

/-- One character moves the scan along with the brackets. -/
theorem step_scan {nesting next : Nesting} {angles : Nat} {c : Char}
    (moves : nesting.step? c = some next) (spares : nesting.sparesBrackets angles c = true) :
    (nesting.scan angles).step c = next.scan (nesting.anglesAfter angles c) := by
  obtain ⟨quotation, awaited⟩ := nesting
  cases quotation with
  | inside =>
      cases moves
      by_cases backslash : c = '\\'
      · simp [scan, Scan.step, Quotation.step, anglesAfter, backslash]
      · by_cases quote : c = '\x22' <;>
          simp [scan, Scan.step, Quotation.step, anglesAfter, backslash, quote]
  | escaped =>
      cases moves
      rfl
  | outside =>
      obtain ⟨after, read, rfl⟩ := Option.map_eq_some_iff.mp moves
      obtain ⟨closer, opens, rfl⟩ | ⟨closes, rfl⟩ | ⟨notOpening, notClosing, rfl⟩ :=
        await?_cases read
      · have shape := ne_of_closing?_eq_some opens
        simp [scan, Scan.step, Quotation.step, anglesAfter, opens_iff, opens, shape,
          Nat.add_right_comm]
      · have shape := ne_of_mem_closers closes
        simp [scan, Scan.step, Quotation.step, anglesAfter, opens_iff, closes_iff, closes, shape,
          Nat.add_right_comm]
      · simp only [scan, Scan.step, Quotation.step, anglesAfter, opens_iff, closes_iff, notOpening,
          notClosing]
        by_cases less : c = '<'
        · simp [less, Nat.add_assoc]
        by_cases greater : c = '>'
        · -- The one place where the count could fall below the awaited brackets.
          have room : after = [] ∨ angles ≠ 0 := by simpa [sparesBrackets, greater] using spares
          have lowered : after.length + angles - 1 = after.length + (angles - 1) := by
            rcases room with rfl | positive
            · simp
            · omega
          simp [greater, lowered]
        · by_cases quote : c = '\x22' <;> simp [less, greater, quote]

end Nesting

/-! ### Pieces of balanced texts -/

namespace Nesting

theorem settles_cons {nesting : Nesting} {c : Char} {cs : List Char} :
    nesting.settles (c :: cs) = true ↔
      ∃ next, nesting.step? c = some next ∧ next.settles cs = true := by
  rw [settles, Option.any_eq_true]

/-- Where a balanced text has been read up to some point, the first piece settles what is open
there, and each other piece is balanced. -/
theorem exists_cutTopLevel_eq {nesting : Nesting} {angles : Nat} {cs : List Char}
    (settles : nesting.settles cs = true) (paired : nesting.anglesPaired angles cs = true) :
    ∃ first others, cutTopLevel (nesting.scan angles) cs = first :: others ∧
      nesting.settles first = true ∧ ∀ piece ∈ others, isBalanced piece = true := by
  induction cs generalizing nesting angles with
  | nil => exact ⟨[], [], rfl, settles, List.forall_mem_nil _⟩
  | cons c rest inductionHypothesis =>
      obtain ⟨next, moves, settlesRest⟩ := settles_cons.mp settles
      rw [anglesPaired, moves, Option.all_some, Bool.and_eq_true] at paired
      rw [cutTopLevel]
      split
      · next separates =>
          -- The count is zero, so no bracket is awaited and the rest of the text is balanced.
          obtain ⟨rfl, rfl, rfl⟩ := eq_start_of_separates separates
          obtain rfl : start = next := Option.some.inj moves
          obtain ⟨first, others, cut, settlesFirst, balanced⟩ :=
            inductionHypothesis settlesRest paired.2
          exact ⟨[], first :: others, congrArg _ cut, by decide,
            List.forall_mem_cons.mpr ⟨settlesFirst, balanced⟩⟩
      · next inside =>
          rw [step_scan moves paired.1]
          obtain ⟨first, others, cut, settlesFirst, balanced⟩ :=
            inductionHypothesis settlesRest paired.2
          exact ⟨c :: first, others, by rw [cut, consHead],
            settles_cons.mpr ⟨next, moves, settlesFirst⟩, balanced⟩

/-- Blanks settle nothing. -/
theorem eq_start_of_settles_of_isBlank {nesting : Nesting} {cs : List Char}
    (blank : ∀ c ∈ cs, isBlank c = true) (settles : nesting.settles cs = true) :
    nesting = start := by
  induction cs generalizing nesting with
  | nil => exact of_decide_eq_true settles
  | cons c rest inductionHypothesis =>
      rw [List.forall_mem_cons] at blank
      obtain ⟨next, moves, settlesRest⟩ := settles_cons.mp settles
      obtain rfl := inductionHypothesis blank.2 settlesRest
      have plain := not_mem_marks_of_isBlank blank.1
      obtain ⟨quotation, awaited⟩ := nesting
      cases quotation with
      | outside =>
          rw [step?_of_not_mem_marks rfl plain] at moves
          exact Option.some.inj moves
      | escaped => cases moves
      | inside =>
          have notQuote : c ≠ '\x22' := fun isQuote => plain (isQuote ▸ List.mem_cons_self)
          simp only [step?, Quotation.step, notQuote] at moves
          grind [start]

/-- Blanks at the end of a text are not needed to settle anything. -/
theorem settles_of_settles_append {nesting : Nesting} {cs back : List Char}
    (blank : ∀ c ∈ back, isBlank c = true) (settles : nesting.settles (cs ++ back) = true) :
    nesting.settles cs = true := by
  induction cs generalizing nesting with
  | nil => exact decide_eq_true (eq_start_of_settles_of_isBlank blank settles)
  | cons c rest inductionHypothesis =>
      obtain ⟨next, moves, settlesRest⟩ := settles_cons.mp settles
      exact settles_cons.mpr ⟨next, moves, inductionHypothesis settlesRest⟩

theorem start_settles_append_of_isBlank {front : List Char} (cs : List Char)
    (blank : ∀ c ∈ front, isBlank c = true) :
    start.settles (front ++ cs) = start.settles cs := by
  induction front with
  | nil => rfl
  | cons c rest inductionHypothesis =>
      rw [List.forall_mem_cons] at blank
      rw [List.cons_append, settles, step?_of_not_mem_marks rfl (not_mem_marks_of_isBlank blank.1)]
      exact inductionHypothesis blank.2

end Nesting

/-- A balanced text stays balanced when its surrounding blanks are removed. -/
theorem isBalanced_trim {cs : List Char} (balanced : isBalanced cs = true) :
    isBalanced (trim cs) = true := by
  obtain ⟨front, back, split, blankFront, blankBack⟩ := exists_trim_eq cs
  rw [isBalanced, split, Nesting.start_settles_append_of_isBlank _ blankFront] at balanced
  exact Nesting.settles_of_settles_append blankBack balanced

theorem isBalanced_of_mem_cutTopLevel {cs piece : List Char} (balanced : isBalanced cs = true)
    (paired : anglesPaired cs = true) (member : piece ∈ cutTopLevel Scan.start cs) :
    isBalanced piece = true := by
  obtain ⟨first, others, cut, settles, rest⟩ := Nesting.exists_cutTopLevel_eq balanced paired
  rw [← Nesting.scan_start, cut, List.mem_cons] at member
  rcases member with rfl | member
  · exact settles
  · exact rest piece member

/-- The arguments of a balanced text are balanced if no `>` inside its brackets stands alone. -/
theorem balanced_arguments_of_paired_angles {cs : List Char} (balanced : isBalanced cs = true)
    (paired : anglesPaired cs = true) : ∀ piece ∈ splitTopLevel cs, isBalanced piece = true := by
  intro piece member
  obtain ⟨verbatim, cut, rfl⟩ := List.mem_map.mp (List.mem_filter.mp member).1
  exact isBalanced_trim (isBalanced_of_mem_cutTopLevel balanced paired cut)

/-- Arguments with nested brackets, a string of marks, generic arguments inside brackets and an
arrow outside them. -/
def genericCall : List Char :=
  "a -> b, f([Map<Int, Text>(), x], \")>,\"), \x7b y \x7d".toList

/-- The commas in the brackets and in the string cut nothing, and every argument is balanced. -/
theorem balanced_arguments_of_genericCall :
    isBalanced genericCall = true ∧ anglesPaired genericCall = true ∧
      splitTopLevel genericCall = ["a -> b".toList, "f([Map<Int, Text>(), x], \")>,\")".toList,
        "\x7b y \x7d".toList] ∧
      ∀ piece ∈ splitTopLevel genericCall, isBalanced piece = true :=
  ⟨by decide, by decide, by decide, balanced_arguments_of_paired_angles (by decide) (by decide)⟩

/-- The `>` of a comparison ends the call it stands in, and the call is cut in two. -/
theorem arguments_cut_at_comparison :
    isBalanced "f(x > 0, 1)".toList = true ∧
      splitTopLevel "f(x > 0, 1)".toList = ["f(x > 0".toList, "1)".toList] ∧
      isBalanced "f(x > 0".toList = false ∧ isBalanced "1)".toList = false := by
  decide

end Synopsis.Text
