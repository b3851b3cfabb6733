/-
Module: Synopsis.Toml.Text
Purpose: Reading the four forms of TOML strings.
Main exports:
  basicBody, longBasicBody, literalBody, longLiteralBody, string?
-/
namespace Synopsis.Toml

/-!
Every reader takes the characters after an opening delimiter and gives the value of the string and
the characters after the closing one.  Readers go over the text one character at a time; what they
carry along is the state of an escape.
-/

/-- A reader of the start of a text: what it read, and the rest. -/
abbrev Reader (α : Type) := List Char → Option (α × List Char)

/-- Put a character in front of what a reader read. -/
def keep (c : Char) (read : Option (List Char × List Char)) : Option (List Char × List Char) :=
  read.map fun result => (c :: result.1, result.2)

/-! ### Characters -/

/-- Spaces within a line. -/
def isSpace (c : Char) : Bool :=
  c == ' ' || c == '\t'

/-- Characters that may stand for themselves in a comment or a string: tabs and everything that is
no control character. -/
def isPlain (c : Char) : Bool :=
  c == '\t' || (0x20 ≤ c.toNat && c.toNat != 0x7F)

/-- Whether a text goes on with a line feed. -/
def beforeLineFeed (rest : List Char) : Bool :=
  rest.head? == some '\n'

/-- Drop a line end at the start of a text. -/
def dropLineEnd : List Char → List Char
  | '\n' :: rest => rest
  | '\r' :: '\n' :: rest => rest
  | rest => rest

/-- The value of a hexadecimal digit. -/
def hexValue? (c : Char) : Option Nat :=
  if c.isDigit then some (c.toNat - '0'.toNat)
  else if 'a' ≤ c && c ≤ 'f' then some (c.toNat - 'a'.toNat + 10)
  else if 'A' ≤ c && c ≤ 'F' then some (c.toNat - 'A'.toNat + 10)
  else none

/-- The character with a given code point; surrogates are none. -/
def scalar? (code : Nat) : Option Char :=
  if code.isValidChar then some (Char.ofNat code) else none

/-! ### Escapes -/

/-- How far an escape sequence has been read. -/
inductive Escape where
  /-- Outside an escape. -/
  | outside
  /-- After a backslash. -/
  | opened
  /-- Inside a code point: digits still to come after the next one, and the value so far. -/
  | code (left value : Nat)
  /-- After a backslash at the end of a line, where space is passed over. -/
  | joining
deriving DecidableEq, Repr

/-- The characters with a short escape. -/
def shortEscape? (c : Char) : Option Char :=
  match c with
  | 'b' => some '\x08'
  | 't' => some '\t'
  | 'n' => some '\n'
  | 'f' => some '\x0c'
  | 'r' => some '\r'
  | '\x22' => some '\x22'
  | '\\' => some '\\'
  | _ => none

/-- The number of hexadecimal digits that a letter after a backslash announces. -/
def codeLength? (c : Char) : Option Nat :=
  match c with
  | 'u' => some 4
  | 'U' => some 8
  | _ => none

/-- What one character inside an escape does: it yields a character, or the escape goes on, or it is
refused. -/
def Escape.feed (escape : Escape) (c : Char) : Option (Option Char × Escape) :=
  match escape with
  | opened =>
      match codeLength? c with
      | some length => some (none, code (length - 1) 0)
      | none => (shortEscape? c).map fun d => (some d, outside)
  | code left value => do
      let digit ← hexValue? c
      if left = 0 then
        let d ← scalar? (value * 16 + digit)
        some (some d, outside)
      else some (none, code (left - 1) (value * 16 + digit))
  | outside => some (some c, outside)
  | joining => some (some c, outside)

/-! ### Strings on one line -/

/-- The rest of a string between double quotes. -/
def basicBody (escape : Escape) : Reader (List Char)
  | [] => none
  | c :: rest =>
      match escape with
      | .outside =>
          if c == '\x22' then some ([], rest)
          else if c == '\\' then basicBody .opened rest
          else if isPlain c then keep c (basicBody .outside rest)
          else none
      | escape =>
          match escape.feed c with
          | none => none
          | some (none, next) => basicBody next rest
          | some (some d, next) => keep d (basicBody next rest)

/-- The rest of a string between apostrophes, where nothing is escaped. -/
def literalBody : Reader (List Char)
  | [] => none
  | c :: rest =>
      if c == '\x27' then some ([], rest)
      else if isPlain c then keep c (literalBody rest)
      else none

/-! ### Strings over several lines -/

/-- After one quote: whether it was the first of a closing delimiter.  A delimiter is three quotes;
up to two quotes before it belong to the string. -/
def closing? (quote : Char) (rest : List Char) : Option (List Char × List Char) :=
  let run := rest.takeWhile (· == quote)
  if run.length < 2 then none
  else some (List.replicate (min (run.length - 2) 2) quote, rest.drop (min run.length 4))

/-- Whether a backslash before this text ends its line: only space stands before the line end. -/
def joinsLines (rest : List Char) : Bool :=
  match rest.dropWhile isSpace with
  | '\n' :: _ => true
  | '\r' :: '\n' :: _ => true
  | _ => false

/-- Whether a character is passed over after a backslash at the end of a line. -/
def isGap (c : Char) (rest : List Char) : Bool :=
  isSpace c || c == '\n' || (c == '\r' && beforeLineFeed rest)

/-- The rest of a string between triple double quotes.  Line ends become line feeds. -/
def longBasicBody (escape : Escape) : Reader (List Char)
  | [] => none
  | c :: rest =>
      if escape = .joining ∧ isGap c rest then longBasicBody .joining rest
      else if escape = .outside ∨ escape = .joining then
        if c == '\x22' then
          match closing? '\x22' rest with
          | some (quotes, rest) => some (quotes, rest)
          | none => keep c (longBasicBody .outside rest)
        else if c == '\\' then
          longBasicBody (if joinsLines rest then .joining else .opened) rest
        else if c == '\r' && beforeLineFeed rest then longBasicBody .outside rest
        else if c == '\n' || isPlain c then keep c (longBasicBody .outside rest)
        else none
      else
        match escape.feed c with
        | none => none
        | some (none, next) => longBasicBody next rest
        | some (some d, next) => keep d (longBasicBody next rest)

/-- The rest of a string between triple apostrophes.  Line ends become line feeds. -/
def longLiteralBody : Reader (List Char)
  | [] => none
  | c :: rest =>
      if c == '\x27' then
        match closing? '\x27' rest with
        | some (quotes, rest) => some (quotes, rest)
        | none => keep c (longLiteralBody rest)
      else if c == '\r' && beforeLineFeed rest then longLiteralBody rest
      else if c == '\n' || isPlain c then keep c (longLiteralBody rest)
      else none

/-- A string of any form.  A line end directly after a triple delimiter is not part of it. -/
def string? : Reader (List Char)
  | '\x22' :: '\x22' :: '\x22' :: rest => longBasicBody .outside (dropLineEnd rest)
  | '\x22' :: rest => basicBody .outside rest
  | '\x27' :: '\x27' :: '\x27' :: rest => longLiteralBody (dropLineEnd rest)
  | '\x27' :: rest => literalBody rest
  | _ => none

end Synopsis.Toml
