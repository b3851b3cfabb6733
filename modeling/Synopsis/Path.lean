/-
Module: Synopsis.Path
Purpose: Paths as they are written, and the places they can lead to.
Main exports:
  Path, Path.ofText, Path.text, Path.join, Path.parent?, Path.length_lt_of_parent?, Location,
  Location.up, Location.down
-/
namespace Synopsis

/-- A path below a root as it is written: the segments between its slashes, of which some may be
empty, `.` or `..`.  The list without segments is the root. -/
abbrev Path := List String

namespace Path

/-- The path that a text with slashes spells. -/
def ofText (text : String) : Path :=
  text.splitOn "/"

/-- The text that a path adds to that of its root: each segment after a slash. -/
def text (path : Path) : String :=
  String.join (path.map ("/" ++ ·))

/-- Whether a segment leads nowhere: an empty one or a single dot. -/
def isFiller (segment : String) : Bool :=
  segment == "" || segment == "."

/-- Whether the text of a path ends with a slash. -/
def endsWithSlash (path : Path) : Bool :=
  path.getLast? == some ""

/-- A path without the slashes at its end. -/
def withoutSlashes (path : Path) : Path :=
  (path.reverse.dropWhile (· == "")).reverse

/-- A path with one more segment, for which a slash at its end need not be repeated. -/
def join (path : Path) (name : String) : Path :=
  if path.endsWithSlash then path.dropLast ++ [name] else path ++ [name]

/-- The path without its last segment, as the text shows it: `..` counts as any other segment, and
fillers do not count.  A path of fillers has no parent. -/
def parent? (path : Path) : Option Path :=
  match path.reverse.dropWhile isFiller with
  | [] => none
  | _ :: above => some (above.dropWhile isFiller).reverse

/-- A parent has fewer segments, so the way up ends. -/
theorem length_lt_of_parent? {path parent : Path} (found : path.parent? = some parent) :
    parent.length < path.length := by
  unfold parent? at found
  split at found
  · cases found
  · next segment above kept =>
    cases found
    have whole := (List.dropWhile_suffix (l := path.reverse) isFiller).length_le
    have rest := (List.dropWhile_suffix (l := above) isFiller).length_le
    rw [kept, List.length_cons, List.length_reverse] at whole
    rw [List.length_reverse]
    omega

end Path

/-- A place in the tree of directories: some steps up from the root, and from there down along some
names. -/
structure Location where
  above : Nat
  names : List String
deriving DecidableEq, Repr

namespace Location

/-- The place where paths start. -/
def root : Location :=
  { above := 0, names := [] }

/-- The place one step up. -/
def up (place : Location) : Location :=
  match place.names with
  | [] => { above := place.above + 1, names := [] }
  | names => { place with names := names.dropLast }

/-- The place that a name leads down to. -/
def down (place : Location) (name : String) : Location :=
  { place with names := place.names ++ [name] }

end Location

end Synopsis
