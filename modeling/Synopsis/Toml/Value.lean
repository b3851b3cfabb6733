/-
Module: Synopsis.Toml.Value
Purpose: TOML values and tables, and which table may be opened or extended when.
Main exports:
  Origin, Value, Entries, Entries.put, Entries.modify, Entries.insert?, Entries.openTable?,
  Entries.openSection?
-/
namespace Synopsis.Toml

/-- How a table came to be, which decides what may still be added to it. -/
inductive Origin where
  /-- Written between braces; nothing can be added. -/
  | inline
  /-- Opened by a header of its own. -/
  | header
  /-- Named on the way to another header; a header of its own may still open it. -/
  | parent
  /-- Named on the way to the last part of a dotted key; further dotted keys extend it. -/
  | dotted
deriving DecidableEq, Repr

/-- A TOML value.  Floats and date-times are kept as they are spelled. -/
inductive Value where
  | string (text : String)
  | integer (value : Int)
  | float (spelling : String)
  | boolean (value : Bool)
  | dateTime (spelling : String)
  | array (items : List Value)
  | table (origin : Origin) (entries : List (String × Value))
  /-- Tables opened one after the other by doubled headers. -/
  | sections (tables : List (List (String × Value)))

/-- The entries of a table; no key occurs twice. -/
abbrev Entries := List (String × Value)

namespace Entries

/-- Give a key a value, in its old place if it had one and else at the end. -/
def put (key : String) (value : Value) : Entries → Entries
  | [] => [(key, value)]
  | entry :: entries =>
      if entry.1 == key then (key, value) :: entries else entry :: put key value entries

/-- Change the table at the end of a path.  Tables on the way are made as needed, with the given
origin, and of a sequence of sections the last one is entered.  A path of a dotted key does not
enter a table with a header of its own, and no path enters any other value. -/
def modify (way : Origin) (change : Origin → Entries → Option Entries) :
    List String → Origin → Entries → Option Entries
  | [], origin, entries => change origin entries
  | key :: path, _, entries =>
      match entries.lookup key with
      | none => do
          let inner ← modify way change path way []
          some (entries.put key (.table way inner))
      | some (.table .inline _) => none
      | some (.table origin inner) =>
          if way = .dotted ∧ origin = .header then none
          else do
            let inner ← modify way change path origin inner
            some (entries.put key (.table origin inner))
      | some (.sections tables) =>
          match tables.getLast? with
          | none => none
          | some last => do
              let last ← modify way change path .header last
              some (entries.put key (.sections (tables.dropLast ++ [last])))
      | some _ => none

/-- Add an entry with a new key. -/
def add? (key : String) (value : Value) (entries : Entries) : Option Entries :=
  if (entries.lookup key).isSome then none else some (entries ++ [(key, value)])

/-- Add an entry under a dotted key.  The table in front of the last part has to be one that dotted
keys made. -/
def insert? (path : List String) (value : Value) (entries : Entries) : Option Entries :=
  match path.getLast? with
  | none => none
  | some key =>
      let way := path.dropLast
      modify .dotted
        (fun origin entries =>
          if way ≠ [] ∧ origin ≠ .dotted then none else add? key value entries)
        way .header entries

/-- Open the table of a header.  It must be new, or so far only named on the way to others. -/
def openTable? (key : String) (entries : Entries) : Option Entries :=
  match entries.lookup key with
  | none => some (entries.put key (.table .header []))
  | some (.table .parent inner) => some (entries.put key (.table .header inner))
  | some _ => none

/-- Open the next section of a doubled header. -/
def openSection? (key : String) (entries : Entries) : Option Entries :=
  match entries.lookup key with
  | none => some (entries.put key (.sections [[]]))
  | some (.sections tables) => some (entries.put key (.sections (tables ++ [[]])))
  | some _ => none

end Entries

end Synopsis.Toml
