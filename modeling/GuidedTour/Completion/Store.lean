import GuidedTour.Completion.Flags
import GuidedTour.Storage.Disk
import GuidedTour.Storage.Environment
import GuidedTour.Warning

/-!
# Where completion is remembered

Flags are kept in memory, or in a file that is written anew with every change; and there is a store that
refuses every call. A file that cannot be understood counts as one without flags.

* `Store.openAt`, `Store.openFor` - a store on a file.
* `Store.isCompleted`, `Store.setCompleted`, `Store.forgetAll` - its three calls.
* `Store.hasCompleted`, `Store.markCompleted` - the same for a walkthrough, which can do without the
  store: a failure is a warning.
-/

namespace GuidedTour.Completion

open Storage

/-- Why a store's call failed. -/
inductive StoreError where
  | io (cause : IoError)
  deriving DecidableEq

/-- The wording of a failure. -/
def StoreError.message : StoreError → String
  | .io cause => "completion store I/O error: " ++ cause.message

/-- A store of completion flags. -/
inductive Store where
  | memory (flags : Flags)
  | file (path : Path) (flags : Flags)
  | refusing

/-- What a store's call leaves behind, and its answer. -/
structure Stored (α : Type) where
  store  : Store
  disk   : Disk
  answer : Except StoreError α

namespace Store

instance : Inhabited Store := ⟨.memory .empty⟩

/-- The flags in a file, and whether its text was understood. A missing file has none. -/
def load (d : Disk) (path : Path) : Except StoreError (Flags × Bool) :=
  match d.read path with
  | .ok s =>
    match Flags.ofText? s with
    | some flags => .ok (flags, true)
    | none => .ok (.empty, false)
  | .error .notFound => .ok (.empty, true)
  | .error e => .error (.io e)

/-- A store on the file at a path as it stands. -/
def openAt (d : Disk) (path : Path) : Except StoreError (Store × List Warning) := do
  let (flags, understood) ← load d path
  return (.file path flags, if understood then [] else [.corruptFlags])

/-- A store on a file: at a given path, in which a tilde is expanded, or at its usual place. -/
def openFor (env : Environment) (d : Disk) (path : Option Path) : Except StoreError (Store × List Warning) :=
  openAt d (match path with
    | some p => expandTildePath env p
    | none => completionPath env)

/-- The path of a store on a file. -/
def path? : Store → Option Path
  | .file path _ => some path
  | _ => none

/-- Writes flags to a file, whose directory is created if it is missing. -/
def save (d : Disk) (path : Path) (flags : Flags) : Disk × Except StoreError Unit :=
  match path.parent? with
  | none => write d
  | some parent =>
    match d.createDirectories parent with
    | (d, .ok _) => write d
    | (d, .error e) => (d, .error (.io e))
where
  /-- Writes the file into its directory. -/
  write (d : Disk) : Disk × Except StoreError Unit :=
    match d.write path flags.text with
    | (d, .ok _) => (d, .ok ())
    | (d, .error e) => (d, .error (.io e))

/-- Whether the flag under a name is set. -/
def isCompleted (s : Store) (key : String) : Except StoreError Bool :=
  match s with
  | .memory flags | .file _ flags => .ok (flags.value key)
  | .refusing => .error (.io (.custom "unreadable"))

/-- Changes the flags of a store. -/
def change {α : Type} (s : Store) (d : Disk) (f : Flags → Flags) (answer : Flags → α) : Stored α :=
  match s with
  | .memory flags => ⟨.memory (f flags), d, .ok (answer flags)⟩
  | .file path flags =>
    let (d, saved) := save d path (f flags)
    ⟨.file path (f flags), d, saved.map fun _ => answer flags⟩
  | .refusing => ⟨.refusing, d, .error (.io (.custom "unwritable"))⟩

/-- Sets or clears the flag under a name. -/
def setCompleted (s : Store) (d : Disk) (key : String) (completed : Bool) : Stored Unit :=
  s.change d (·.set key completed) fun _ => ()

/-- Clears the flags of all walkthroughs; answers how many there were. -/
def forgetAll (s : Store) (d : Disk) : Stored Nat :=
  s.change d (·.forget) fun flags => flags.size - flags.forget.size

/-- Whether a walkthrough was completed. What cannot be read counts as not completed. -/
def hasCompleted (s : Store) (identity : String) : Bool × List Warning :=
  match s.isCompleted (completionKey identity) with
  | .ok b => (b, [])
  | .error _ => (false, [.unreadableFlag])

/-- Remembers or forgets that a walkthrough was completed. -/
def markCompleted (s : Store) (d : Disk) (identity : String) (completed : Bool) :
    Store × Disk × List Warning :=
  let r := s.setCompleted d (completionKey identity) completed
  (r.store, r.disk, match r.answer with
    | .ok _ => []
    | .error _ => [.unwritableFlag])

end Store

end GuidedTour.Completion
