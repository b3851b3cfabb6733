/-
Module: Synopsis.Toml.Quote
Purpose: Writing TOML strings and arrays of strings.
Main exports:
  Quote, Quote.choose, quoted, quotedArray
-/
import Synopsis.Toml.Text

namespace Synopsis.Toml

/-!
A string is written in the first form of this list that shows it without escapes: double quotes,
apostrophes, triple double quotes, triple apostrophes.  If none does, it is written between double
quotes, triple ones if it has several lines, and what cannot stand for itself is escaped.
-/

/-- The four forms of strings. -/
inductive Quote where
  | basic
  | literal
  | longBasic
  | longLiteral
deriving DecidableEq, Repr

/-- Control characters that only an escape can write; tabs and line feeds are none. -/
def needsCode (c : Char) : Bool :=
  (c.toNat ≤ 0x1F && c != '\t' && c != '\n') || c.toNat == 0x7F

/-- The length of the longest run of a character in a text that follows `run` of them. -/
def longestRun (c : Char) (run : Nat) : List Char → Nat
  | [] => run
  | d :: rest => if d == c then longestRun c (run + 1) rest else max run (longestRun c 0 rest)

namespace Quote

/-- Whether a form shows a text without escapes.  In double quotes a tab is escaped all the same. -/
def suits (text : List Char) : Quote → Bool
  | basic =>
      !text.any needsCode && !text.contains '\\' && longestRun '\x22' 0 text == 0 &&
        !text.contains '\n'
  | literal =>
      !text.any needsCode && longestRun '\x27' 0 text == 0 && !text.contains '\n'
  | longBasic =>
      !text.any needsCode && !text.contains '\\' && longestRun '\x22' 0 text ≤ 2
  | longLiteral =>
      !text.any needsCode && longestRun '\x27' 0 text ≤ 2

/-- The form in which a text is written. -/
def choose (text : List Char) : Quote :=
  match [basic, literal, longBasic, longLiteral].find? (suits text) with
  | some quote => quote
  | none => if text.contains '\n' then longBasic else basic

end Quote

/-! ### Escapes -/

/-- An upper-case hexadecimal digit. -/
def hexDigit (value : Nat) : Char :=
  if value < 10 then Char.ofNat ('0'.toNat + value) else Char.ofNat ('A'.toNat + value - 10)

/-- The escape of a control character by its code point. -/
def codeEscape (c : Char) : List Char :=
  ['\\', 'u', hexDigit (c.toNat / 4096 % 16), hexDigit (c.toNat / 256 % 16),
   hexDigit (c.toNat / 16 % 16), hexDigit (c.toNat % 16)]

/-- How a character other than a double quote is written between double quotes.  Over several lines
a line feed stands for itself. -/
def basicChar (long : Bool) (c : Char) : List Char :=
  match c with
  | '\x08' => ['\\', 'b']
  | '\t' => ['\\', 't']
  | '\n' => if long then ['\n'] else ['\\', 'n']
  | '\x0c' => ['\\', 'f']
  | '\r' => ['\\', 'r']
  | '\\' => ['\\', '\\']
  | c => if needsCode c then codeEscape c else [c]

/-- A text between double quotes.  Up to `most` double quotes in a row stand for themselves; `run`
counts those just written, and an escape starts the count again. -/
def basicText (long : Bool) (most run : Nat) : List Char → List Char
  | [] => []
  | c :: rest =>
      if c == '\x22' then
        if run < most then c :: basicText long most (run + 1) rest
        else '\\' :: c :: basicText long most 0 rest
      else basicChar long c ++ basicText long most 0 rest

/-- The line feed after an opening triple delimiter, which is not part of the text; it is written
when the text has several lines. -/
def openingLineFeed (text : List Char) : List Char :=
  if text.contains '\n' then ['\n'] else []

/-- A text as a TOML string of a given form. -/
def Quote.write (text : List Char) : Quote → List Char
  | basic => ['\x22'] ++ basicText false 0 0 text ++ ['\x22']
  | literal => ['\x27'] ++ text ++ ['\x27']
  | longBasic =>
      List.replicate 3 '\x22' ++ openingLineFeed text ++ basicText true 2 0 text ++
        List.replicate 3 '\x22'
  | longLiteral =>
      List.replicate 3 '\x27' ++ openingLineFeed text ++ text ++ List.replicate 3 '\x27'

/-- A text as a TOML string. -/
def quoted (text : List Char) : List Char :=
  (Quote.choose text).write text

/-- Texts as a TOML array: up to one of them on the same line, more of them each on a line of its
own. -/
def quotedArray (texts : List (List Char)) : List Char :=
  match texts with
  | [] => ['[', ']']
  | [text] => ['['] ++ quoted text ++ [']']
  | texts =>
      ['[', '\n'] ++
        texts.flatMap (fun text => [' ', ' ', ' ', ' '] ++ quoted text ++ [',', '\n']) ++ [']']

end Synopsis.Toml
