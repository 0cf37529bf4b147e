import GuidedTour.Command.Execution

/-!
# The program

Reads arguments, variables and files, lets a command run, and prints what it says. There is no terminal
loop: a showcase prints its first frame.
-/

namespace GuidedTour.Program

open Command Completion Storage Showcase

/-- The variables that the program looks at. -/
def variableNames : List String := ["HOME", "XDG_CONFIG_HOME", "LUMEN_COMPLETION_PATH", "LUMEN_LOG_PATH"]

/-- The environment of the process. -/
def readEnvironment : IO Environment := do
  let pairs ← variableNames.filterMapM fun name => do
    return (← IO.getEnv name).map fun value => (name, value)
  return ⟨pairs, none⟩

/-- What became of reading a file. -/
def readFile (p : Path) : IO (Except IoError String) := do
  try
    let bytes ← IO.FS.readBinFile p
    return match String.fromUTF8? bytes with
      | some s => .ok s
      | none => .error .notText
  catch e =>
    return .error (match e with
      | .noFileOrDirectory .. => .notFound
      | .inappropriateType .. => .isADirectory
      | e => .custom (toString e))

/-- A disk with what the program may look at: a file of flags, and the file that a command names. -/
def readDisk (paths : List Path) : IO Disk := do
  paths.foldlM (fun d p => do
    return match ← readFile p with
      | .ok s => d.install p (.file (.text s))
      | .error .notText => d.install p (.file (.bytes ⟨#[0xff]⟩))
      | .error .isADirectory => d.install p .directory
      | .error _ => d) .fresh

/-- The files that a command looks at. -/
def filesOf : Command → List Path
  | .play file _ | .check file => [file]
  | _ => []

/-- Writes back the file of flags if it has changed. -/
def writeBack (before after : Disk) (p : Path) : IO Unit := do
  match after.read p, before.read p with
  | .ok new, old =>
    unless old.toOption = some new do
      if let some parent := p.parent? then
        unless parent.isEmpty do IO.FS.createDirAll parent
      IO.FS.writeFile p new
  | .error _, _ => pure ()

/-- Prints the first frame of a showcase. -/
def printFrame (a : App) : IO Unit := do
  let area := Rect.of 0 0 80 24
  let (_, b, _) := a.draw area (.blank area) 0
  for row in b.rows do IO.println row

end GuidedTour.Program

open GuidedTour GuidedTour.Program GuidedTour.Storage in
/-- Runs the program. -/
def main (args : List String) : IO UInt32 := do
  let env ← readEnvironment
  let flags := completionPath env
  let files := match Command.ofArguments args with
    | .ok c => filesOf c
    | .error _ => []
  let disk ← readDisk (flags :: files)
  let outcome := Command.runProgram env disk args
  writeBack disk outcome.disk flags
  IO.print outcome.output
  IO.eprint outcome.errors
  if let some app := outcome.app then printFrame app
  return UInt32.ofNat outcome.code
