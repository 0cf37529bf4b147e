import GuidedTour.Storage.Path

/-!
# Files

A disk holds files and directories under their places. A path is followed name by name; every name but
the last must be that of a directory. What a disk has to do may fail halfway, so the operations that change it
answer the disk as they leave it also when they fail.

* `Disk.read` - the text of a file.
* `Disk.write` - replaces the contents of a file or creates it; on a full disk the file is cut short.
* `Disk.createDirectories` - creates a directory with all that lead to it.
-/

namespace GuidedTour.Storage

/-- Why a file operation failed. -/
inductive IoError where
  | notFound
  | notADirectory
  | isADirectory
  | exists
  | notText
  | nulInName
  | storageFull
  | custom (reason : String)
  deriving DecidableEq

/-- The wording of a failure. -/
def IoError.message : IoError → String
  | .notFound => "No such file or directory (os error 2)"
  | .exists => "File exists (os error 17)"
  | .notADirectory => "Not a directory (os error 20)"
  | .isADirectory => "Is a directory (os error 21)"
  | .notText => "stream did not contain valid UTF-8"
  | .nulInName => "file name contained an unexpected NUL byte"
  | .storageFull => "No space left on device (os error 28)"
  | .custom reason => reason

/-- What a file holds. -/
inductive Contents where
  | text (s : String)
  | bytes (b : ByteArray)

/-- The text of a file, unless its bytes are none. -/
def Contents.text? : Contents → Option String
  | .text s => some s
  | .bytes b => String.fromUTF8? b

/-- How many bytes a file takes. -/
def Contents.size : Contents → Nat
  | .text s => s.utf8ByteSize
  | .bytes b => b.size

/-- What stands at a place. -/
inductive Entry where
  | directory
  | file (contents : Contents)

/-- How many bytes an entry takes. -/
def Entry.size : Entry → Nat
  | .directory => 0
  | .file contents => contents.size

/-- A place: the names that lead to it from the root. -/
abbrev Place := List String

/-- The entries of a disk, by place. The root needs no entry. -/
structure Disk where
  entries  : List (Place × Entry)
  /-- How many bytes all files can take together, if there is a bound. -/
  capacity : Option Nat := none

namespace Disk

/-- Where relative paths begin. -/
def workingDirectory : Place := ["work"]

/-- A disk with nothing but an empty working directory. -/
def fresh : Disk := { entries := [(workingDirectory, .directory)] }

instance : Inhabited Disk := ⟨fresh⟩

/-- What stands at a place. -/
def get? (d : Disk) (place : Place) : Option Entry :=
  if place.isEmpty then some .directory else d.entries.lookup place

/-- Puts an entry at a place. -/
def put (d : Disk) (place : Place) (entry : Entry) : Disk :=
  { d with entries := (place, entry) :: d.entries.filter fun (p, _) => p ≠ place }

/-- Removes what stands at a place and below it. -/
def erase (d : Disk) (place : Place) : Disk :=
  { d with entries := d.entries.filter fun (p, _) => !place.isPrefixOf p }

/-- An entry that was put is found again. -/
theorem get?_put_self (d : Disk) {place : Place} (entry : Entry) (h : place ≠ []) :
    (d.put place entry).get? place = some entry := by
  simp [get?, put, h]

/-- Follows names from a place. -/
def follow (d : Disk) (place : Place) : List String → Except IoError Place
  | [] => .ok place
  | name :: rest =>
    match d.get? place with
    | some .directory =>
      let next := if name = "." then place else if name = ".." then place.dropLast else place ++ [name]
      follow d next rest
    | some (.file _) => .error .notADirectory
    | none => .error .notFound

/-- The names of a path; a slash at the end asks for a directory, like a point. -/
def names (p : Path) : List String :=
  let pieces := p.pieces
  pieces.filter (· ≠ "") ++ if pieces.getLast? = some "" then ["."] else []

/-- The place that a path leads to. -/
def locate (d : Disk) (p : Path) : Except IoError Place :=
  if p.isEmpty then .error .notFound
  else if p.contains '\x00' then .error .nulInName
  else follow d (if p.isAbsolute then [] else workingDirectory) (names p)

/-- Whether a path leads to a directory. -/
def isDirectory (d : Disk) (p : Path) : Bool :=
  match d.locate p with
  | .ok place => match d.get? place with
    | some .directory => true
    | _ => false
  | .error _ => false

/-- The text of a file. -/
def read (d : Disk) (p : Path) : Except IoError String := do
  match d.get? (← d.locate p) with
  | none => throw .notFound
  | some .directory => throw .isADirectory
  | some (.file contents) =>
    match contents.text? with
    | some s => return s
    | none => throw .notText

/-- How many bytes stand elsewhere than at a place. -/
def sizeBeside (d : Disk) (place : Place) : Nat :=
  d.entries.foldl (fun total (p, entry) => if p = place then total else total + entry.size) 0

/-- How many bytes a file at a place can take, if there is a bound. -/
def room? (d : Disk) (place : Place) : Option Nat := d.capacity.map (· - d.sizeBeside place)

/-- Empties the file at a place, or creates it, and then writes as much of a text as there is room for. -/
def fill (d : Disk) (place : Place) (s : String) : Disk × Except IoError Unit :=
  let room := (d.room? place).getD s.utf8ByteSize
  if s.utf8ByteSize ≤ room then (d.put place (.file (.text s)), .ok ())
  else (d.put place (.file (.bytes (s.toUTF8.extract 0 room))), .error .storageFull)

/-- Writes a file. -/
def write (d : Disk) (p : Path) (s : String) : Disk × Except IoError Unit :=
  match d.locate p with
  | .error e => (d, .error e)
  | .ok place =>
    match d.get? place with
    | some .directory => (d, .error .isADirectory)
    | _ => d.fill place s

/-- Creates one directory. -/
def createDirectory (d : Disk) (p : Path) : Except IoError Disk := do
  let place ← d.locate p
  match d.get? place with
  | some _ => throw .exists
  | none => return d.put place .directory

/-- Creates one directory, unless there is one. -/
def provideDirectory (d : Disk) (p : Path) : Disk × Except IoError Unit :=
  match d.createDirectory p with
  | .ok d => (d, .ok ())
  | .error e => (d, if d.isDirectory p then .ok () else .error e)

/-- Creates a directory after the directories that lead to it; `depth` bounds their number. One that
exists already is no failure. -/
def createDirectoriesUpTo (d : Disk) (p : Path) : (depth : Nat) → Disk × Except IoError Unit
  | 0 => (d, .ok ())
  | depth + 1 =>
    if p.isEmpty then (d, .ok ()) else
      match d.createDirectory p with
      | .error .notFound =>
        match p.parent? with
        | none => (d, .error (.custom "failed to create whole tree"))
        | some parent =>
          match createDirectoriesUpTo d parent depth with
          | (d, .ok _) => d.provideDirectory p
          | failed => failed
      | _ => d.provideDirectory p

/-- Creates a directory with all that lead to it. -/
def createDirectories (d : Disk) (p : Path) : Disk × Except IoError Unit :=
  d.createDirectoriesUpTo p (p.components.length + 1)

/-- Puts an entry at the end of a path, with the directories that lead to it. -/
def install (d : Disk) (p : Path) (entry : Entry) : Disk :=
  let d := match p.parent? with
    | some parent => (d.createDirectories parent).1
    | none => d
  match d.locate p with
  | .ok place => d.put place entry
  | .error _ => d

/-- Removes what a path leads to. -/
def uninstall (d : Disk) (p : Path) : Disk :=
  match d.locate p with
  | .ok place => d.erase place
  | .error _ => d

end Disk

end GuidedTour.Storage
