import GuidedTour.Text.Blank

/-!
# Paths

A path is a text of names between slashes. Looking at a path never touches a disk.

* `join` - a path below another one; an absolute path stands for itself.
* `parent?` - the path without its last name.
* `extension?` - what follows the last point of the last name.
-/

namespace GuidedTour.Storage

/-- A path, as it was written. -/
abbrev Path := String

namespace Path

/-- Whether the path starts at the root. -/
def isAbsolute (p : Path) : Bool := p.toList.head? = some '/'

/-- The path `q` seen from `p`. -/
def join (p q : Path) : Path :=
  if isAbsolute q then q
  else
    match p.toList.getLast? with
    | none | some '/' => p ++ q
    | some _ => p ++ "/" ++ q

/-- The names between slashes, empty ones included. -/
def pieces (p : Path) : List String := (Text.splitChars '/' p.toList).map String.ofList

/-- The components of a path: its names without empty ones and without `.`, but a `.` at the very
beginning stays, and so does the root, as an empty name. -/
def components (p : Path) : List String :=
  match pieces p with
  | "" :: rest => (if isAbsolute p then [""] else []) ++ rest.filter fun n => n ≠ "" && n ≠ "."
  | first :: rest => first :: rest.filter fun n => n ≠ "" && n ≠ "."
  | [] => []

/-- The path of some components. -/
def ofComponents : List String → Path
  | [] => ""
  | [""] => "/"
  | names => String.intercalate "/" names

/-- The path without its last component; the root and the empty path have none. -/
def parent? (p : Path) : Option Path :=
  match components p with
  | [] | [""] => none
  | names => some (ofComponents names.dropLast)

/-- The last component, if it is a name. -/
def fileName? (p : Path) : Option String :=
  match (components p).getLast? with
  | none => none
  | some n => if n = "" || n = "." || n = ".." then none else some n

/-- What follows the last point of the last name. A point at the beginning separates nothing. -/
def extension? (p : Path) : Option String := do
  let name ← fileName? p
  match (Text.splitChars '.' name.toList).reverse with
  | last :: first :: more =>
    if first.isEmpty ∧ more.isEmpty then none else some (String.ofList last)
  | _ => none

end Path

end GuidedTour.Storage
