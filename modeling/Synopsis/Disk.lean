/-
Module: Synopsis.Disk
Purpose: A tree of files as a value.
Main exports:
  Entry, Disk, Disk.Fault, Disk.locate, Disk.stat, Disk.has, Disk.read, Disk.write,
  Disk.makeDirectory
-/
import Synopsis.Path

namespace Synopsis

/-- What stands at a place. -/
inductive Entry where
  | directory
  | file (text : String)
  /-- A file whose bytes encode no text. -/
  | binary
deriving DecidableEq, Repr

/-- A tree of files: the entries by their places.  The root and the places above it are
directories. -/
structure Disk where
  entries : List (Location × Entry)
deriving DecidableEq, Repr

namespace Disk

/-- Why an operation on files fails. -/
inductive Fault where
  | notFound
  | isADirectory
  | notADirectory
  | alreadyExists
  /-- A name, or the path as a whole, has more bytes than a tree of files takes. -/
  | nameTooLong
  /-- The path has a character that no name can have. -/
  | invalidCharacter
  /-- The bytes of a file encode no text. -/
  | notText
deriving DecidableEq, Repr

/-- A disk with nothing but its root. -/
def empty : Disk :=
  { entries := [] }

/-- The entry at a place. -/
def entry? (disk : Disk) (place : Location) : Option Entry :=
  if place.names.isEmpty then some .directory else disk.entries.lookup place

/-- Record an entry for a place in place of any earlier one. -/
def put (disk : Disk) (place : Location) (entry : Entry) : Disk :=
  { entries := (place, entry) :: disk.entries.filter (·.1 != place) }

/-! ### Following paths -/

/-- The most bytes that a name can have. -/
def nameLimit : Nat :=
  255

/-- The most bytes that a path can have. -/
def pathLimit : Nat :=
  4095

/-- Follow one segment, for which there has to be a directory at the place.  What the segment leads
to need not be there. -/
def follow (disk : Disk) (place : Location) (segment : String) : Except Fault Location :=
  match disk.entry? place with
  | none => .error .notFound
  | some (.file _) => .error .notADirectory
  | some .binary => .error .notADirectory
  | some .directory =>
      if Path.isFiller segment then .ok place
      else if segment == ".." then .ok place.up
      else if segment.utf8ByteSize > nameLimit then .error .nameTooLong
      else .ok (place.down segment)

/-- The place that a path leads to, at which nothing need be. -/
def locate (disk : Disk) (path : Path) : Except Fault Location :=
  if path.any (·.contains '\x00') then .error .invalidCharacter
  else if path.text.utf8ByteSize > pathLimit then .error .nameTooLong
  else path.foldlM disk.follow Location.root

/-- The entry that a path leads to, or why there is none. -/
def stat (disk : Disk) (path : Path) : Except Fault Entry := do
  let place ← disk.locate path
  match disk.entry? place with
  | none => .error .notFound
  | some entry => .ok entry

/-- Whether a path leads to anything. -/
def has (disk : Disk) (path : Path) : Bool :=
  (disk.stat path).isOk

/-- Whether a path leads to a directory. -/
def hasDirectory (disk : Disk) (path : Path) : Bool :=
  match disk.stat path with
  | .ok .directory => true
  | _ => false

/-! ### Files -/

/-- The text of a file. -/
def read (disk : Disk) (path : Path) : Except Fault String := do
  match ← disk.stat path with
  | .directory => .error .isADirectory
  | .file text => .ok text
  | .binary => .error .notText

/-- Write a file.  Its directory has to be there, and a slash at the end of the path asks for a
directory. -/
def write (disk : Disk) (path : Path) (text : String) : Except Fault Disk := do
  let place ← disk.locate path.withoutSlashes
  if path.endsWithSlash || disk.entry? place == some .directory then .error .isADirectory
  else .ok (disk.put place (.file text))

/-! ### Directories -/

/-- Make one directory, in a directory that is there. -/
def makeOne (disk : Disk) (path : Path) : Except Fault Disk := do
  let place ← disk.locate path.withoutSlashes
  if (disk.entry? place).isSome then .error .alreadyExists
  else .ok (disk.put place .directory)

/-- A fault in making a directory, which is none where the directory is there all the same. -/
def unlessDirectory (disk : Disk) (path : Path) (fault : Fault) : Option Fault :=
  if disk.hasDirectory path then none else some fault

/-- Make a directory, and first its parents where they are not there.  Parents that were made stay
even if a fault follows. -/
def makeDirectory (disk : Disk) (path : Path) : Disk × Option Fault :=
  match disk.makeOne path with
  | .ok made => (made, none)
  | .error .notFound =>
      match _found : path.parent? with
      | none => (disk, some .notFound)
      | some parent =>
          match disk.makeDirectory parent with
          | (made, some fault) => (made, some fault)
          | (made, none) =>
              match made.makeOne path with
              | .ok done => (done, none)
              | .error fault => (made, made.unlessDirectory path fault)
  | .error fault => (disk, disk.unlessDirectory path fault)
termination_by path.length
decreasing_by exact Path.length_lt_of_parent? _found

end Disk

end Synopsis
