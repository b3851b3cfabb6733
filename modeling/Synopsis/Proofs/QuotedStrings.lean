/-
Module: Synopsis.Proofs.QuotedStrings
Purpose: A text that is written as a TOML string is read back as it was, in each of the four forms
  of strings.  A reader meets three things: characters that stand for themselves, escapes, and
  quotes, of which it has to know whether they close the string.
Main exports:
  Escape.Completes, basicChar_cases, basicBody_basicText, closing?_at_end, longBasicBody_basicText,
  longLiteralBody_append, string?_quoted
-/
import Synopsis.Toml.Quote

namespace Synopsis.Toml

/-! ### Escapes -/

/-- Whether the next character belongs to an escape. -/
def Escape.isOpen : Escape → Bool
  | .outside => false
  | .opened => true
  | .code _ _ => true
  | .joining => false

/-- The characters that complete an escape, and the character that the escape stands for. -/
inductive Escape.Completes : Escape → List Char → Char → Prop where
  | last {escape : Escape} {c d : Char} (isOpen : escape.isOpen = true)
      (fed : escape.feed c = some (some d, .outside)) : Completes escape [c] d
  | more {escape next : Escape} {c d : Char} {code : List Char} (isOpen : escape.isOpen = true)
      (fed : escape.feed c = some (none, next)) (rest : Completes next code d) :
      Completes escape (c :: code) d

theorem basicBody_cons_of_isOpen {escape : Escape} (isOpen : escape.isOpen = true) (c : Char)
    (rest : List Char) :
    basicBody escape (c :: rest) =
      match escape.feed c with
      | none => none
      | some (none, next) => basicBody next rest
      | some (some d, next) => keep d (basicBody next rest) := by
  cases escape with
  | outside => cases isOpen
  | opened => rfl
  | code left value => rfl
  | joining => cases isOpen

theorem longBasicBody_cons_of_isOpen {escape : Escape} (isOpen : escape.isOpen = true) (c : Char)
    (rest : List Char) :
    longBasicBody escape (c :: rest) =
      match escape.feed c with
      | none => none
      | some (none, next) => longBasicBody next rest
      | some (some d, next) => keep d (longBasicBody next rest) := by
  cases escape with
  | outside => cases isOpen
  | opened => rfl
  | code left value => rfl
  | joining => cases isOpen

section

variable {escape : Escape} {code : List Char} {d : Char}

theorem basicBody_of_completes (completes : escape.Completes code d) (rest : List Char) :
    basicBody escape (code ++ rest) = keep d (basicBody .outside rest) := by
  induction completes with
  | last isOpen fed => rw [List.singleton_append, basicBody_cons_of_isOpen isOpen, fed]
  | more isOpen fed _ inductionHypothesis =>
      rw [List.cons_append, basicBody_cons_of_isOpen isOpen, fed]
      exact inductionHypothesis

theorem longBasicBody_of_completes (completes : escape.Completes code d) (rest : List Char) :
    longBasicBody escape (code ++ rest) = keep d (longBasicBody .outside rest) := by
  induction completes with
  | last isOpen fed => rw [List.singleton_append, longBasicBody_cons_of_isOpen isOpen, fed]
  | more isOpen fed _ inductionHypothesis =>
      rw [List.cons_append, longBasicBody_cons_of_isOpen isOpen, fed]
      exact inductionHypothesis

end

theorem hexValue?_hexDigit : ∀ value < 16, hexValue? (hexDigit value) = some value := by
  decide

theorem scalar?_toNat (c : Char) : scalar? c.toNat = some c := by
  have valid : c.toNat.isValidChar := c.valid
  rw [scalar?, if_pos valid, Char.ofNat_toNat]

namespace Escape.Completes

variable {left value sofar : Nat} {code : List Char} {d : Char}

theorem digit (small : value < 16) (rest : Completes (.code left (sofar * 16 + value)) code d) :
    Completes (.code (left + 1) sofar) (hexDigit value :: code) d := by
  refine .more rfl ?_ rest
  simp [feed, hexValue?_hexDigit value small]

theorem lastDigit (small : value < 16) (found : scalar? (sofar * 16 + value) = some d) :
    Completes (.code 0 sofar) [hexDigit value] d := by
  refine .last rfl ?_
  simp [feed, hexValue?_hexDigit value small, found]

end Escape.Completes

/-- Four hexadecimal digits write a code point below 65536. -/
theorem completes_codeEscape {c : Char} (small : c.toNat < 65536) :
    ∃ code, codeEscape c = '\\' :: 'u' :: code ∧ Escape.opened.Completes ('u' :: code) c := by
  refine ⟨_, rfl, .more rfl rfl ?_⟩
  have low (value : Nat) : value % 16 < 16 := Nat.mod_lt _ (by decide)
  have whole : (((0 * 16 + c.toNat / 4096 % 16) * 16 + c.toNat / 256 % 16) * 16 +
      c.toNat / 16 % 16) * 16 + c.toNat % 16 = c.toNat := by omega
  apply Escape.Completes.digit (low _)
  apply Escape.Completes.digit (low _)
  apply Escape.Completes.digit (low _)
  apply Escape.Completes.lastDigit (low _)
  rw [whole, scalar?_toNat]

/-! ### Characters between double quotes -/

/-- What needs no code stands for itself, a line feed apart. -/
theorem isPlain_of_needsCode {c : Char} (harmless : needsCode c = false) (inLine : c ≠ '\n') :
    isPlain c = true := by
  by_cases tab : c = '\t'
  · rw [tab]
    rfl
  · simp only [needsCode, Bool.or_eq_false_iff, Bool.and_eq_false_iff, decide_eq_false_iff_not,
      bne_eq_false_iff_eq, beq_eq_false_iff_ne, tab, inLine, or_false] at harmless
    simp only [isPlain, Bool.or_eq_true, Bool.and_eq_true, decide_eq_true_eq, bne_iff_ne]
    exact .inr ⟨by omega, harmless.2⟩

section

variable {c : Char} (plain : isPlain c = true ∨ c = '\n')

include plain

theorem ne_carriageReturn_of_plain : c ≠ '\r' := by
  rintro rfl
  rcases plain with plain | lineFeed
  · cases plain
  · exact absurd lineFeed (by decide)

theorem isKept_of_plain : (c == '\n' || isPlain c) = true := by
  rcases plain with plain | rfl
  · rw [plain, Bool.or_true]
  · rfl

end

/-- A character other than a double quote is written as itself or as an escape, and an escape never
looks like a backslash at the end of a line. -/
theorem basicChar_cases (long : Bool) {c : Char} (notQuote : c ≠ '\x22') :
    (basicChar long c = [c] ∧ c ≠ '\\' ∧ (isPlain c = true ∨ (long = true ∧ c = '\n'))) ∨
    ∃ code, basicChar long c = '\\' :: code ∧ Escape.opened.Completes code c ∧
      ∀ more, joinsLines (code ++ more) = false := by
  unfold basicChar
  split
  · exact .inr ⟨_, rfl, .last rfl rfl, fun _ => rfl⟩
  · exact .inr ⟨_, rfl, .last rfl rfl, fun _ => rfl⟩
  · cases long with
    | true => exact .inl ⟨rfl, by decide, .inr ⟨rfl, rfl⟩⟩
    | false => exact .inr ⟨_, rfl, .last rfl rfl, fun _ => rfl⟩
  · exact .inr ⟨_, rfl, .last rfl rfl, fun _ => rfl⟩
  · exact .inr ⟨_, rfl, .last rfl rfl, fun _ => rfl⟩
  · exact .inr ⟨_, rfl, .last rfl rfl, fun _ => rfl⟩
  · next notTab notLineFeed _ _ notBackslash =>
      cases coded : needsCode c with
      | true =>
          have small : c.toNat < 65536 := by
            simp only [needsCode, Bool.or_eq_true, Bool.and_eq_true, decide_eq_true_eq,
              beq_iff_eq] at coded
            omega
          obtain ⟨code, written, completes⟩ := completes_codeEscape small
          exact .inr ⟨_, written, completes, fun _ => rfl⟩
      | false =>
          exact .inl ⟨rfl, notBackslash, .inl (isPlain_of_needsCode coded notLineFeed)⟩

/-! ### Strings on one line -/

theorem basicBody_basicChar {c : Char} (notQuote : c ≠ '\x22') (rest : List Char) :
    basicBody .outside (basicChar false c ++ rest) = keep c (basicBody .outside rest) := by
  rcases basicChar_cases false notQuote with ⟨written, notBackslash, plain | ⟨long, -⟩⟩ |
      ⟨code, written, completes, -⟩
  · rw [written]
    simp [basicBody, notQuote, notBackslash, plain]
  · cases long
  · rw [written]
    exact basicBody_of_completes completes rest

/-- Any text can be written between double quotes. -/
theorem basicBody_basicText (text rest : List Char) :
    basicBody .outside (basicText false 0 0 text ++ '\x22' :: rest) = some (text, rest) := by
  induction text with
  | nil => rfl
  | cons c text inductionHypothesis =>
      rw [basicText]
      split
      · next quote =>
          obtain rfl := beq_iff_eq.mp quote
          have completes : Escape.opened.Completes ['\x22'] '\x22' := .last rfl rfl
          calc
            basicBody .outside ('\\' :: '\x22' :: basicText false 0 0 text ++ '\x22' :: rest)
              = keep '\x22' (basicBody .outside (basicText false 0 0 text ++ '\x22' :: rest)) :=
                basicBody_of_completes completes _
            _ = some ('\x22' :: text, rest) := by rw [inductionHypothesis]; rfl
      · next other =>
          have notQuote : c ≠ '\x22' := by simpa using other
          rw [List.append_assoc, basicBody_basicChar notQuote, inductionHypothesis]
          rfl

/-- A text of plain characters without an apostrophe can be written between apostrophes. -/
theorem literalBody_append {text : List Char}
    (plain : ∀ c ∈ text, isPlain c = true ∧ c ≠ '\x27') (rest : List Char) :
    literalBody (text ++ '\x27' :: rest) = some (text, rest) := by
  induction text with
  | nil => rfl
  | cons c text inductionHypothesis =>
      rw [List.forall_mem_cons] at plain
      rw [List.cons_append, literalBody, if_neg (by simp [plain.1.2]), if_pos plain.1.1,
        inductionHypothesis plain.2]
      rfl

/-! ### Closing quotes -/

section

variable {quote : Char} {rest : List Char}

theorem takeWhile_replicate_append (apart : rest.head? ≠ some quote) (count : Nat) :
    (List.replicate count quote ++ rest).takeWhile (· == quote) = List.replicate count quote := by
  have stops : rest.takeWhile (· == quote) = [] := by
    cases rest with
    | nil => rfl
    | cons c rest => simpa [List.takeWhile_cons] using apart
  rw [List.takeWhile_append_of_pos (by simp), stops, List.append_nil]

/-- The last quotes of a string close it; the first of them has been passed. -/
theorem closing?_at_end (apart : rest.head? ≠ some quote) {count : Nat} (few : count ≤ 2) :
    closing? quote (List.replicate (count + 2) quote ++ rest) =
      some (List.replicate count quote, rest) := by
  rw [closing?, takeWhile_replicate_append apart, List.length_replicate,
    if_neg (by omega), Nat.add_sub_cancel, Nat.min_eq_left few, Nat.min_eq_left (by omega),
    List.drop_append_of_le_length (by simp), List.drop_replicate, Nat.sub_self]
  rfl

theorem closing?_of_few {following : List Char}
    (few : (following.takeWhile (· == quote)).length < 2) : closing? quote following = none :=
  if_pos few

end

/-! ### Strings over several lines -/

section

variable {c : Char} (rest : List Char)

theorem longBasicBody_cons_of_plain (notQuote : c ≠ '\x22') (notBackslash : c ≠ '\\')
    (plain : isPlain c = true ∨ c = '\n') :
    longBasicBody .outside (c :: rest) = keep c (longBasicBody .outside rest) := by
  have notReturn := ne_carriageReturn_of_plain plain
  have kept := isKept_of_plain plain
  simp [longBasicBody, notQuote, notBackslash, notReturn, kept]

theorem longBasicBody_cons_quote :
    longBasicBody .outside ('\x22' :: rest) =
      match closing? '\x22' rest with
      | some (quotes, rest) => some (quotes, rest)
      | none => keep '\x22' (longBasicBody .outside rest) := rfl

theorem longBasicBody_escape {code : List Char} (completes : Escape.opened.Completes code c)
    (sameLine : joinsLines (code ++ rest) = false) :
    longBasicBody .outside ('\\' :: (code ++ rest)) = keep c (longBasicBody .outside rest) := by
  rw [← longBasicBody_of_completes completes rest]
  simp [longBasicBody, sameLine]

end

theorem longBasicBody_basicChar {c : Char} (notQuote : c ≠ '\x22') (rest : List Char) :
    longBasicBody .outside (basicChar true c ++ rest) = keep c (longBasicBody .outside rest) := by
  rcases basicChar_cases true notQuote with ⟨written, notBackslash, plain⟩ |
      ⟨code, written, completes, sameLine⟩
  · rw [written]
    apply longBasicBody_cons_of_plain rest notQuote notBackslash
    exact plain.imp_right And.right
  · rw [written]
    exact longBasicBody_escape rest completes (sameLine rest)

theorem basicText_replicate (long : Bool) {most run count : Nat} (few : count + run ≤ most) :
    basicText long most run (List.replicate count '\x22') = List.replicate count '\x22' := by
  induction count generalizing run with
  | zero => rfl
  | succ count inductionHypothesis =>
      rw [List.replicate_succ, basicText, if_pos (beq_self_eq_true _), if_pos (by omega),
        inductionHypothesis (by omega)]

/-- After some quotes in a row, either the text ends with a few more of them, or few are written
before something else. -/
theorem quotes_ahead {run : Nat} (few : run ≤ 2) (text tail : List Char) :
    (∃ count, text = List.replicate count '\x22' ∧ count + run ≤ 2) ∨
      ((basicText true 2 run text ++ tail).takeWhile (· == '\x22')).length + run ≤ 2 := by
  induction text generalizing run with
  | nil => exact .inl ⟨0, rfl, by omega⟩
  | cons c text inductionHypothesis =>
      rw [basicText]
      split
      · next quote =>
          obtain rfl := beq_iff_eq.mp quote
          split
          · next less =>
              have more : run + 1 ≤ 2 := less
              rcases inductionHypothesis more with ⟨count, rfl, bound⟩ | bound
              · exact .inl ⟨count + 1, rfl, by omega⟩
              · refine .inr ?_
                rw [List.cons_append, List.takeWhile_cons_of_pos rfl, List.length_cons]
                omega
          · exact .inr (by simpa using few)
      · next other =>
          have notQuote : c ≠ '\x22' := by simpa using other
          rcases basicChar_cases true notQuote with ⟨written, -⟩ | ⟨code, written, -⟩
          · exact .inr (by simpa [written, List.takeWhile_cons, notQuote] using few)
          · exact .inr (by simpa [written, List.takeWhile_cons] using few)

/-- Any text can be written between triple double quotes. -/
theorem longBasicBody_basicText {rest : List Char} (apart : rest.head? ≠ some '\x22') {run : Nat}
    (few : run ≤ 2) (text : List Char) :
    longBasicBody .outside (basicText true 2 run text ++ (List.replicate 3 '\x22' ++ rest)) =
      some (text, rest) := by
  induction text generalizing run with
  | nil =>
      have closed := closing?_at_end apart (Nat.zero_le 2)
      change longBasicBody .outside ('\x22' :: (List.replicate 2 '\x22' ++ rest)) = _
      rw [longBasicBody_cons_quote, closed]
      rfl
  | cons c text inductionHypothesis =>
      rw [basicText]
      split
      · next quote =>
          obtain rfl := beq_iff_eq.mp quote
          split
          · next less =>
              rw [List.cons_append, longBasicBody_cons_quote]
              have more : run + 1 ≤ 2 := less
              rcases quotes_ahead more text (List.replicate 3 '\x22' ++ rest) with
                  ⟨count, rfl, bound⟩ | bound
              · -- The text ends with quotes, and those of the delimiter follow them.
                rw [basicText_replicate true bound, ← List.append_assoc,
                  List.replicate_append_replicate, closing?_at_end apart
                    (show count + 1 ≤ 2 by omega)]
                rfl
              · rw [closing?_of_few (by omega), inductionHypothesis less]
                rfl
          · have completes : Escape.opened.Completes ['\x22'] '\x22' := .last rfl rfl
            have read := longBasicBody_escape
              (basicText true 2 0 text ++ (List.replicate 3 '\x22' ++ rest)) completes rfl
            rw [inductionHypothesis (Nat.zero_le 2)] at read
            exact read
      · next other =>
          have notQuote : c ≠ '\x22' := by simpa using other
          rw [List.append_assoc, longBasicBody_basicChar notQuote,
            inductionHypothesis (Nat.zero_le 2)]
          rfl

/-- Of the apostrophes in a text without long runs, the same holds. -/
theorem apostrophes_ahead {run : Nat} {text : List Char}
    (few : longestRun '\x27' run text ≤ 2) (tail : List Char) :
    (∃ count, text = List.replicate count '\x27' ∧ count + run ≤ 2) ∨
      ((text ++ tail).takeWhile (· == '\x27')).length + run ≤ 2 := by
  induction text generalizing run with
  | nil => exact .inl ⟨0, rfl, by simpa [longestRun] using few⟩
  | cons c text inductionHypothesis =>
      rw [longestRun] at few
      split at few
      · next quote =>
          obtain rfl := beq_iff_eq.mp quote
          rcases inductionHypothesis few with ⟨count, rfl, bound⟩ | bound
          · exact .inl ⟨count + 1, rfl, by omega⟩
          · refine .inr ?_
            rw [List.cons_append, List.takeWhile_cons_of_pos rfl, List.length_cons]
            omega
      · next other =>
          refine .inr ?_
          rw [List.cons_append, List.takeWhile_cons, if_neg other]
          simpa using (Nat.max_le.mp few).1

/-- A text of plain characters and line feeds, without three apostrophes in a row, can be written
between triple apostrophes. -/
theorem longLiteralBody_append {rest text : List Char} (apart : rest.head? ≠ some '\x27')
    (plain : ∀ c ∈ text, isPlain c = true ∨ c = '\n') {run : Nat}
    (few : longestRun '\x27' run text ≤ 2) :
    longLiteralBody (text ++ (List.replicate 3 '\x27' ++ rest)) = some (text, rest) := by
  induction text generalizing run with
  | nil =>
      have closed := closing?_at_end apart (Nat.zero_le 2)
      change longLiteralBody ('\x27' :: (List.replicate 2 '\x27' ++ rest)) = _
      rw [longLiteralBody, if_pos (by rfl), closed]
      rfl
  | cons c text inductionHypothesis =>
      rw [List.forall_mem_cons] at plain
      rw [longestRun] at few
      rw [List.cons_append, longLiteralBody]
      split
      · next quote =>
          obtain rfl := beq_iff_eq.mp quote
          rw [if_pos quote] at few
          rcases apostrophes_ahead few (List.replicate 3 '\x27' ++ rest) with
              ⟨count, rfl, bound⟩ | bound
          · rw [← List.append_assoc, List.replicate_append_replicate,
              closing?_at_end apart (show count + 1 ≤ 2 by omega)]
            rfl
          · rw [closing?_of_few (by omega), inductionHypothesis plain.2 few]
            rfl
      · next other =>
          rw [if_neg other] at few
          have notReturn := ne_carriageReturn_of_plain plain.1
          rw [if_neg (by simp [notReturn]), if_pos (isKept_of_plain plain.1),
            inductionHypothesis plain.2 (Nat.max_le.mp few).2]
          rfl

/-! ### Strings of any form -/

theorem dropLineEnd_of_head? {text : List Char} (notLineFeed : text.head? ≠ some '\n')
    (notReturn : text.head? ≠ some '\r') : dropLineEnd text = text := by
  unfold dropLineEnd
  split
  · cases notLineFeed rfl
  · cases notReturn rfl
  · rfl

/-- What follows an opening delimiter is not mistaken for the line feed behind it. -/
theorem dropLineEnd_openingLineFeed {text written : List Char}
    (inLine : text.contains '\n' = false →
      written.head? ≠ some '\n' ∧ written.head? ≠ some '\r') :
    dropLineEnd (openingLineFeed text ++ written) = written := by
  rw [openingLineFeed]
  split
  · rfl
  · next none =>
      obtain ⟨notLineFeed, notReturn⟩ := inLine (by simpa using none)
      exact dropLineEnd_of_head? notLineFeed notReturn

/-- How a text other than the empty one begins between double quotes. -/
theorem exists_basicText_cons (long : Bool) (most : Nat) (c : Char) (text : List Char) :
    ∃ first more, basicText long most 0 (c :: text) = first :: more ∧
      (first = '\\' ∨ first = c ∧
        (c = '\x22' ∧ 0 < most ∨ c ≠ '\x22' ∧ (isPlain c = true ∨ c = '\n'))) := by
  rw [basicText]
  split
  · next quote =>
      obtain rfl := beq_iff_eq.mp quote
      split
      · next room => exact ⟨_, _, rfl, .inr ⟨rfl, .inl ⟨rfl, room⟩⟩⟩
      · exact ⟨_, _, rfl, .inl rfl⟩
  · next other =>
      have notQuote : c ≠ '\x22' := by simpa using other
      rcases basicChar_cases long notQuote with ⟨written, -, plain⟩ | ⟨code, written, -⟩
      · rw [written]
        exact ⟨_, _, rfl, .inr ⟨rfl, .inr ⟨notQuote, plain.imp_right And.right⟩⟩⟩
      · rw [written]
        exact ⟨_, _, rfl, .inl rfl⟩

theorem string?_of_basic {body : List Char} (short : body.take 2 ≠ ['\x22', '\x22']) :
    string? ('\x22' :: body) = basicBody .outside body := by
  unfold string?
  split
  · next same =>
      obtain ⟨-, rfl⟩ := List.cons.inj same
      cases short rfl
  · next same =>
      obtain ⟨-, rfl⟩ := List.cons.inj same
      rfl
  · next same => cases same
  · next same => cases same
  · next _ other _ _ => cases other body rfl

theorem string?_of_literal {body : List Char} (short : body.take 2 ≠ ['\x27', '\x27']) :
    string? ('\x27' :: body) = literalBody body := by
  unfold string?
  split
  · next same => cases same
  · next same => cases same
  · next same =>
      obtain ⟨-, rfl⟩ := List.cons.inj same
      cases short rfl
  · next same =>
      obtain ⟨-, rfl⟩ := List.cons.inj same
      rfl
  · next other => cases other body rfl

section

variable {text rest : List Char}

theorem string?_write_basic (apart : rest.head? ≠ some '\x22') :
    string? (Quote.basic.write text ++ rest) = some (text, rest) := by
  have short : (basicText false 0 0 text ++ '\x22' :: rest).take 2 ≠ ['\x22', '\x22'] := by
    intro quotes
    cases text with
    | nil =>
        cases rest with
        | nil => cases quotes
        | cons c rest =>
            cases quotes
            exact apart rfl
    | cons c text =>
        obtain ⟨first, more, written, begins⟩ := exists_basicText_cons false 0 c text
        rw [written] at quotes
        obtain rfl : first = '\x22' := (List.cons.inj quotes).1
        rcases begins with backslash | ⟨rfl, ⟨-, room⟩ | ⟨notQuote, -⟩⟩
        · cases backslash
        · cases room
        · exact notQuote rfl
  calc
    string? (Quote.basic.write text ++ rest)
      = string? ('\x22' :: (basicText false 0 0 text ++ '\x22' :: rest)) := by
        simp [Quote.write]
    _ = some (text, rest) := by rw [string?_of_basic short, basicBody_basicText]

theorem string?_write_longBasic (apart : rest.head? ≠ some '\x22') :
    string? (Quote.longBasic.write text ++ rest) = some (text, rest) := by
  have written : dropLineEnd (openingLineFeed text ++
      (basicText true 2 0 text ++ (List.replicate 3 '\x22' ++ rest))) =
      basicText true 2 0 text ++ (List.replicate 3 '\x22' ++ rest) := by
    apply dropLineEnd_openingLineFeed
    intro inLine
    cases text with
    | nil => exact ⟨nofun, nofun⟩
    | cons c text =>
        obtain ⟨first, more, written, begins⟩ := exists_basicText_cons true 2 c text
        have notLineFeed : c ≠ '\n' := by
          rintro rfl
          simp at inLine
        rw [written, List.cons_append, List.head?_cons, ne_eq, Option.some.injEq, ne_eq,
          Option.some.injEq]
        rcases begins with rfl | ⟨rfl, ⟨rfl, -⟩ | ⟨-, plain⟩⟩
        · exact ⟨by decide, by decide⟩
        · exact ⟨by decide, by decide⟩
        · exact ⟨notLineFeed, ne_carriageReturn_of_plain plain⟩
  calc
    string? (Quote.longBasic.write text ++ rest)
      = longBasicBody .outside (dropLineEnd (openingLineFeed text ++
          (basicText true 2 0 text ++ (List.replicate 3 '\x22' ++ rest)))) := by
        rw [Quote.write, List.append_assoc, List.append_assoc, List.append_assoc]
        rfl
    _ = some (text, rest) := by rw [written, longBasicBody_basicText apart (Nat.zero_le 2)]

theorem plain_of_no_code {c : Char} (none : text.any needsCode = false) (member : c ∈ text) :
    isPlain c = true ∨ c = '\n' := by
  by_cases lineFeed : c = '\n'
  · exact .inr lineFeed
  · have harmless : needsCode c = false := by
      simpa using List.any_eq_false.mp none c member
    exact .inl (isPlain_of_needsCode harmless lineFeed)

theorem le_longestRun (c : Char) (run : Nat) (text : List Char) : run ≤ longestRun c run text := by
  induction text generalizing run with
  | nil => exact Nat.le_refl run
  | cons d text inductionHypothesis =>
      rw [longestRun]
      split
      · exact Nat.le_trans (Nat.le_succ run) (inductionHypothesis (run + 1))
      · exact Nat.le_max_left _ _

theorem not_mem_of_longestRun {c : Char} (none : longestRun c 0 text = 0) : c ∉ text := by
  induction text with
  | nil => exact List.not_mem_nil
  | cons d text inductionHypothesis =>
      rw [longestRun] at none
      split at none
      · have one := le_longestRun c (0 + 1) text
        omega
      · next other =>
          rw [Nat.zero_max] at none
          rw [List.mem_cons, not_or]
          exact ⟨fun same => other (by simp [same]), inductionHypothesis none⟩

theorem string?_write_literal (suits : Quote.literal.suits text = true)
    (apart : rest.head? ≠ some '\x27') :
    string? (Quote.literal.write text ++ rest) = some (text, rest) := by
  simp only [Quote.suits, Bool.and_eq_true, Bool.not_eq_true', beq_iff_eq] at suits
  obtain ⟨⟨harmless, noApostrophe⟩, inLine⟩ := suits
  have plain : ∀ c ∈ text, isPlain c = true ∧ c ≠ '\x27' := by
    intro c member
    have notLineFeed : c ≠ '\n' := by
      rintro rfl
      simp [member] at inLine
    refine ⟨(plain_of_no_code harmless member).resolve_right notLineFeed, ?_⟩
    rintro rfl
    exact not_mem_of_longestRun noApostrophe member
  have short : (text ++ '\x27' :: rest).take 2 ≠ ['\x27', '\x27'] := by
    intro quotes
    cases text with
    | nil =>
        cases rest with
        | nil => cases quotes
        | cons c rest =>
            cases quotes
            exact apart rfl
    | cons c text => exact (plain c List.mem_cons_self).2 (List.cons.inj quotes).1
  calc
    string? (Quote.literal.write text ++ rest)
      = string? ('\x27' :: (text ++ '\x27' :: rest)) := by simp [Quote.write]
    _ = some (text, rest) := by rw [string?_of_literal short, literalBody_append plain]

theorem string?_write_longLiteral (suits : Quote.longLiteral.suits text = true)
    (apart : rest.head? ≠ some '\x27') :
    string? (Quote.longLiteral.write text ++ rest) = some (text, rest) := by
  simp only [Quote.suits, Bool.and_eq_true, Bool.not_eq_true', decide_eq_true_eq] at suits
  obtain ⟨harmless, few⟩ := suits
  have plain : ∀ c ∈ text, isPlain c = true ∨ c = '\n' := fun c => plain_of_no_code harmless
  have written : dropLineEnd (openingLineFeed text ++
      (text ++ (List.replicate 3 '\x27' ++ rest))) = text ++ (List.replicate 3 '\x27' ++ rest) := by
    apply dropLineEnd_openingLineFeed
    intro inLine
    cases text with
    | nil => exact ⟨nofun, nofun⟩
    | cons c text =>
        have notLineFeed : c ≠ '\n' := by
          rintro rfl
          simp at inLine
        rw [List.cons_append, List.head?_cons, ne_eq, Option.some.injEq, ne_eq, Option.some.injEq]
        exact ⟨notLineFeed, ne_carriageReturn_of_plain (plain c List.mem_cons_self)⟩
  calc
    string? (Quote.longLiteral.write text ++ rest)
      = longLiteralBody (dropLineEnd (openingLineFeed text ++
          (text ++ (List.replicate 3 '\x27' ++ rest)))) := by
        rw [Quote.write, List.append_assoc, List.append_assoc, List.append_assoc]
        rfl
    _ = some (text, rest) := by rw [written, longLiteralBody_append apart plain few]

end

/-- The forms without escapes are chosen only for texts that they suit. -/
theorem suits_choose (text : List Char) :
    Quote.choose text = .basic ∨ Quote.choose text = .longBasic ∨
      (Quote.choose text).suits text = true := by
  unfold Quote.choose
  split
  · next quote found => exact .inr (.inr (List.find?_some found))
  · split
    · exact .inr (.inl rfl)
    · exact .inl rfl

/-- A text that is written as a string is read back, as long as no quote follows it. -/
theorem string?_quoted (text : List Char) {rest : List Char}
    (noQuote : rest.head? ≠ some '\x22') (noApostrophe : rest.head? ≠ some '\x27') :
    string? (quoted text ++ rest) = some (text, rest) := by
  have chosen := suits_choose text
  rw [quoted]
  cases form : Quote.choose text with
  | basic => exact string?_write_basic noQuote
  | literal =>
      have suits : Quote.literal.suits text = true := by simpa [form] using chosen
      exact string?_write_literal suits noApostrophe
  | longBasic => exact string?_write_longBasic noQuote
  | longLiteral =>
      have suits : Quote.longLiteral.suits text = true := by simpa [form] using chosen
      exact string?_write_longLiteral suits noApostrophe

end Synopsis.Toml
