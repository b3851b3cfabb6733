/-
Module: Synopsis.Tree.Text
Purpose: The source text that nodes stand for.
Main exports:
  trimmed, decode?, slice?, Node.text?, spanText?
-/
import Synopsis.Text.Blank
import Synopsis.Tree.Basic

namespace Synopsis

/-- A text without the blanks at its two ends. -/
def trimmed (text : String) : String :=
  String.ofList (Text.trim text.toList)

/-!
Offsets count bytes of the UTF-8 encoding, so a range may cut a character in two.  There are two
ways to read a range: decode its bytes on their own, or cut the source at two character
boundaries.  An empty range strictly inside a character decodes to the empty text but is no cut.
-/

/-- The text whose UTF-8 encoding is the byte range, if the range is valid UTF-8 on its own. -/
def decode? (source : String) (start stop : Nat) : Option String :=
  String.fromUTF8? (source.toUTF8.extract start stop)

/-- The part of the source between two byte offsets, if both are character boundaries in
ascending order. -/
def slice? (source : String) (start stop : Nat) : Option String := do
  let first ← source.pos? ⟨start⟩
  let last ← source.pos? ⟨stop⟩
  if start ≤ stop then some (String.extract first last) else none

/-- The source text of a node without surrounding blanks. -/
def Node.text? (source : String) (node : Node) : Option String :=
  (decode? source node.row.start node.row.stop).map trimmed

/-- The source text from the start of one node to the end of another, without surrounding
blanks. -/
def spanText? (source : String) (first last : Node) : Option String :=
  (slice? source first.row.start last.row.stop).map trimmed

end Synopsis
