/-
Module: Synopsis.Text.Pieces
Purpose: Argument lists as text: commas that separate, and commas inside brackets or strings.
Main exports:
  Scan, Scan.step, Scan.separates, cutTopLevel, splitTopLevel
-/
import Synopsis.Text.Blank

namespace Synopsis.Text

/-!
A comma separates two arguments when a scan from the left reaches it outside every double-quoted
string and outside every bracket.  Inside a string a backslash takes the next character along.
Brackets are counted together, whatever their shape, and a closing bracket with nothing to close
leaves the count at zero.
-/

/-- What the scan remembers of the text to its left. -/
structure Scan where
  /-- Brackets opened and not closed. -/
  depth : Nat
  /-- Inside a double-quoted string. -/
  quoted : Bool
  /-- Inside a string, directly after a backslash that escapes. -/
  escaped : Bool
deriving DecidableEq, Repr

namespace Scan

/-- The scan at the left end of a text. -/
def start : Scan :=
  { depth := 0, quoted := false, escaped := false }

/-- Opening brackets, the angle bracket of generic arguments included. -/
def opens (c : Char) : Bool :=
  c == '(' || c == '[' || c == '\x7b' || c == '<'

/-- Closing brackets. -/
def closes (c : Char) : Bool :=
  c == ')' || c == ']' || c == '\x7d' || c == '>'

/-- Move the scan over one character. -/
def step (scan : Scan) (c : Char) : Scan :=
  if scan.quoted then
    if scan.escaped then { scan with escaped := false }
    else if c == '\\' then { scan with escaped := true }
    else if c == '\x22' then { scan with quoted := false }
    else scan
  else if c == '\x22' then { scan with quoted := true }
  else if opens c then { scan with depth := scan.depth + 1 }
  else if closes c then { scan with depth := scan.depth - 1 }
  else scan

/-- Whether `c`, read in this state, separates two arguments. -/
def separates (scan : Scan) (c : Char) : Bool :=
  !scan.quoted && scan.depth == 0 && c == ','

end Scan

/-- The pieces between separating commas, verbatim, for a scan already under way. -/
def cutTopLevel (scan : Scan) : List Char → List (List Char)
  | [] => [[]]
  | c :: cs =>
      if scan.separates c then [] :: cutTopLevel scan cs
      else consHead c (cutTopLevel (scan.step c) cs)

/-- The arguments of an argument list: its pieces without surrounding blanks, empty ones left
out. -/
def splitTopLevel (cs : List Char) : List (List Char) :=
  ((cutTopLevel Scan.start cs).map trim).filter (!·.isEmpty)

end Synopsis.Text
