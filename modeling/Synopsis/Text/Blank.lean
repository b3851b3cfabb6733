/-
Module: Synopsis.Text.Blank
Purpose: White space, and what trimming and dividing a text at it means.
Main exports:
  isBlank, trimStart, trimEnd, trim, words
-/
import Synopsis.Text.Cut

namespace Synopsis.Text

/-- The twenty-five characters with the Unicode property `White_Space`. -/
def isBlank (c : Char) : Bool :=
  let n := c.toNat
  (9 ≤ n && n ≤ 13) || n == 0x20 || n == 0x85 || n == 0xA0 || n == 0x1680 ||
    (0x2000 ≤ n && n ≤ 0x200A) || n == 0x2028 || n == 0x2029 || n == 0x202F ||
    n == 0x205F || n == 0x3000

/-- The text without its leading blanks. -/
def trimStart (cs : List Char) : List Char :=
  cs.dropWhile isBlank

/-- The text without its trailing blanks. -/
def trimEnd (cs : List Char) : List Char :=
  (cs.reverse.dropWhile isBlank).reverse

/-- The text without its leading and trailing blanks. -/
def trim (cs : List Char) : List Char :=
  trimEnd (trimStart cs)

/-- The maximal blank-free pieces of the text, in order. -/
def words (cs : List Char) : List (List Char) :=
  (cutAt isBlank cs).filter (!·.isEmpty)

end Synopsis.Text
