/-
Module: Synopsis.Toml.Document
Purpose: Reading whole TOML documents.
Main exports:
  path?, value?, Statement, statements?, Cursor, Cursor.advance?, document?
-/
import Synopsis.Toml.Number

namespace Synopsis.Toml

/-!
A document is a sequence of statements, one to a line.  Reading it has two steps: the text gives the
statements, and the statements, one after the other, give the table.
-/

/-! ### Keys -/

/-- Drop the spaces at the start of a text. -/
def dropSpaces (text : List Char) : List Char :=
  text.dropWhile isSpace

/-- Characters of a key without quotes. -/
def isBareKey (c : Char) : Bool :=
  c.isAlpha || c.isDigit || c == '_' || c == '-'

/-- One part of a key. -/
def key? (text : List Char) : Option (String × List Char) :=
  match text with
  | '\x22' :: rest => (basicBody .outside rest).map fun (key, rest) => (String.ofList key, rest)
  | '\x27' :: rest => (literalBody rest).map fun (key, rest) => (String.ofList key, rest)
  | _ =>
      let bare := text.takeWhile isBareKey
      if bare.isEmpty then none else some (String.ofList bare, text.dropWhile isBareKey)

/-- Keys and values nest less deep than this. -/
def nestingLimit : Nat :=
  80

/-- A dotted key of at most `room` parts, with the spaces around it. -/
def path? : Nat → List Char → Option (List String × List Char)
  | 0, _ => none
  | room + 1, text => do
      let (key, rest) ← key? (dropSpaces text)
      match dropSpaces rest with
      | '.' :: rest =>
          let (keys, rest) ← path? room rest
          some (key :: keys, rest)
      | rest => some ([key], rest)

/-- A dotted key. -/
def fullPath? (text : List Char) : Option (List String × List Char) :=
  path? (nestingLimit - 1) text

/-! ### Values -/

/-- Drop spaces, line ends and comments.  A character that may not stand in a comment stops the
drop, inside a comment too. -/
def dropFiller (inComment : Bool) : List Char → List Char
  | [] => []
  | c :: rest =>
      if c == '\n' || (c == '\r' && beforeLineFeed rest) then dropFiller false rest
      else if inComment then if isPlain c then dropFiller true rest else c :: rest
      else if isSpace c then dropFiller false rest
      else if c == '#' then dropFiller true rest
      else c :: rest

/-- A value that holds no other values. -/
def scalarValue? (text : List Char) : Option (Value × List Char) :=
  match text with
  | '\x22' :: _ => (string? text).map fun (value, rest) => (.string (String.ofList value), rest)
  | '\x27' :: _ => (string? text).map fun (value, rest) => (.string (String.ofList value), rest)
  | 't' :: _ => (dropWord? ['t', 'r', 'u', 'e'] text).map fun rest => (.boolean true, rest)
  | 'f' :: _ => (dropWord? ['f', 'a', 'l', 's', 'e'] text).map fun rest => (.boolean false, rest)
  | _ => number? text

/-- The table that the entries between braces make. -/
def inlineTable? (pairs : List (List String × Value)) : Option Value :=
  (pairs.foldlM (fun entries pair => Entries.insert? pair.1 pair.2 entries) []).map
    (.table .inline)

mutual

/-- A value that nests at most `room` deep.  The first argument bounds the steps of the reader. -/
def value? : Nat → Nat → List Char → Option (Value × List Char)
  | 0, _, _ => none
  | fuel + 1, room, text =>
      match text with
      | '[' :: rest =>
          match room with
          | 0 => none
          | room + 1 => (items? fuel room rest).map fun (items, rest) => (.array items, rest)
      | '\x7b' :: rest =>
          match room with
          | 0 => none
          | room + 1 =>
              match dropSpaces rest with
              | '\x7d' :: rest => some (.table .inline [], rest)
              | rest => do
                  let (pairs, rest) ← pairs? fuel room rest
                  let table ← inlineTable? pairs
                  some (table, rest)
      | _ => scalarValue? text

/-- The items of an array up to its closing bracket.  A comma may follow the last item. -/
def items? : Nat → Nat → List Char → Option (List Value × List Char)
  | 0, _, _ => none
  | fuel + 1, room, text =>
      match dropFiller false text with
      | ']' :: rest => some ([], rest)
      | start => do
          let (item, rest) ← value? fuel room start
          match dropFiller false rest with
          | ',' :: rest =>
              let (items, rest) ← items? fuel room rest
              some (item :: items, rest)
          | ']' :: rest => some ([item], rest)
          | _ => none

/-- One or more entries between braces up to the closing one, all on one line. -/
def pairs? : Nat → Nat → List Char → Option (List (List String × Value) × List Char)
  | 0, _, _ => none
  | fuel + 1, room, text => do
      let (path, rest) ← fullPath? text
      let rest ← dropWord? ['='] rest
      let (value, rest) ← value? fuel room (dropSpaces rest)
      match dropSpaces rest with
      | ',' :: rest =>
          let (pairs, rest) ← pairs? fuel room rest
          some ((path, value) :: pairs, rest)
      | '\x7d' :: rest => some ([(path, value)], rest)
      | _ => none

end

/-- A value at the start of a text.  Every step of the reader but the last passes a character. -/
def fullValue? (text : List Char) : Option (Value × List Char) :=
  value? (2 * text.length + 2) (nestingLimit - 1) text

/-! ### Statements -/

/-- One statement of a document. -/
inductive Statement where
  /-- `[path]`. -/
  | tableHeader (path : List String)
  /-- `[[path]]`. -/
  | sectionHeader (path : List String)
  /-- `path = value`. -/
  | entry (path : List String) (value : Value)

/-- Pass over the rest of a line: spaces, perhaps a comment, and the line end. -/
def lineEnd? (text : List Char) : Option (List Char) :=
  let rest := dropSpaces text
  let rest := if rest.head? == some '#' then rest.dropWhile isPlain else rest
  match rest with
  | [] => some []
  | '\n' :: rest => some rest
  | '\r' :: '\n' :: rest => some rest
  | _ => none

/-- A statement and the line end after it. -/
def statement? (text : List Char) : Option (Statement × List Char) :=
  match text with
  | '[' :: '[' :: rest => do
      let (path, rest) ← fullPath? rest
      let rest ← dropWord? [']', ']'] rest
      let rest ← lineEnd? rest
      some (.sectionHeader path, rest)
  | '[' :: rest => do
      let (path, rest) ← fullPath? rest
      let rest ← dropWord? [']'] rest
      let rest ← lineEnd? rest
      some (.tableHeader path, rest)
  | _ => do
      let (path, rest) ← fullPath? text
      let rest ← dropWord? ['='] rest
      let (value, rest) ← fullValue? (dropSpaces rest)
      let rest ← lineEnd? rest
      some (.entry path value, rest)

/-- Whether a line holds no statement. -/
def isBlankLine (text : List Char) : Bool :=
  match text with
  | '#' :: _ => true
  | '\n' :: _ => true
  | '\r' :: _ => true
  | _ => false

/-- The statements of a text of at most `lines` lines. -/
def statements? : (lines : Nat) → List Char → Option (List Statement)
  | 0, _ => none
  | lines + 1, text =>
      match dropSpaces text with
      | [] => some []
      | text =>
          if isBlankLine text then do
            let rest ← lineEnd? text
            statements? lines rest
          else do
            let (statement, rest) ← statement? text
            let others ← statements? lines rest
            some (statement :: others)

/-! ### Tables -/

/-- A document under construction: its root table, and the path of the table that entries go to. -/
structure Cursor where
  entries : Entries
  path : List String

namespace Cursor

/-- Change the table at the end of a header's path. -/
def within (path : List String) (change : Entries → Option Entries) (entries : Entries) :
    Option Entries :=
  entries.modify .parent (fun _ => change) path .header

/-- Take one statement into account. -/
def advance? (cursor : Cursor) : Statement → Option Cursor
  | .entry path value => do
      let entries ← within cursor.path (Entries.insert? path value) cursor.entries
      some { cursor with entries }
  | .tableHeader path => do
      let key ← path.getLast?
      let entries ← within path.dropLast (Entries.openTable? key) cursor.entries
      some { entries, path }
  | .sectionHeader path => do
      let key ← path.getLast?
      let entries ← within path.dropLast (Entries.openSection? key) cursor.entries
      some { entries, path }

end Cursor

/-- The text without a byte order mark. -/
def dropMark : List Char → List Char
  | '\uFEFF' :: rest => rest
  | text => text

/-- The root table of a document. -/
def document? (text : List Char) : Option Entries := do
  let body := dropMark text
  let statements ← statements? (body.length + 1) body
  let cursor ← statements.foldlM Cursor.advance? { entries := [], path := [] }
  some cursor.entries

end Synopsis.Toml
