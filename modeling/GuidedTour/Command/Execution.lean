import GuidedTour.Command.Help
import GuidedTour.Command.Options
import GuidedTour.Definition.Loading

/-!
# Running commands

What each command prints, and with which code the program ends. The showcase is not run here: the command
answers the application that is to be run.

* `execute` - runs a command.
-/

namespace GuidedTour.Command

open Completion Storage Showcase

/-- How the program ends. -/
structure Outcome where
  code   : Nat
  output : String
  errors : String
  disk   : Disk
  /-- The showcase that is to be run. -/
  app    : Option App := none

/-- A command that went well. -/
def Outcome.success (d : Disk) (output : String) : Outcome := ⟨0, output, "", d, none⟩

/-- A command that failed. -/
def Outcome.failure (d : Disk) (f : Failure) : Outcome := ⟨1, "", f.report, d, none⟩

/-- The causes of a refused definition, for a report. -/
def definitionCauses (e : DefinitionError) : List String :=
  match e with
  | .unreadable _ cause => [e.message, cause.message]
  | .json cause => [e.message, cause.message]
  | .yaml => [e.message, "malformed"]
  | e => [e.message]

/-- The failure of a command whose definition was refused. -/
def definitionFailure (file : Path) (e : DefinitionError) : Failure :=
  ⟨"invalid walkthrough definition " ++ file, definitionCauses e⟩

/-- The failure of a command whose store gave an error. -/
def storeFailure (what : String) : StoreError → Failure
  | .io cause => ⟨what, [StoreError.message (.io cause), cause.message]⟩

/-- A store that could not be opened. -/
def unopenedStore : String := "could not open the walkthrough completion store"

/-- Flags that could not be cleared. -/
def unclearedFlags : String := "could not reset completion flags"

/-- What is said about a walkthrough that is fine. -/
def describe (w : DefinedWalkthrough) : String :=
  let title := match w.definition.title with
    | some t => " (" ++ t ++ ")"
    | none => ""
  let anchors := match w.anchorViews with
    | [] => ""
    | views => "\nanchors: " ++ String.intercalate ", " views
  w.definition.id ++ ": " ++ toString w.definition.steps.length ++ " step(s)" ++ title ++ anchors

/-- What is said about cleared flags. -/
def clearedText (n : Nat) : String := "Cleared " ++ toString n ++ " walkthrough completion flag(s).\n"

/-- Checks a definition, given what became of reading its file. -/
def checkFile (d : Disk) (file : Path) (read : Except IoError String) : Outcome :=
  match DefinedWalkthrough.ofFile file read with
  | .ok w => .success d (describe w ++ "\n")
  | .error e => .failure d (definitionFailure file e)

/-- Runs a showcase over the store at its usual place. -/
def launch (env : Environment) (d : Disk) (tour : Provider) (options : AppOptions) : Outcome :=
  match Store.openFor env d none with
  | .error e => .failure d (storeFailure unopenedStore e)
  | .ok (store, _) =>
    { Outcome.success d "" with app := some (App.launch tour store d options 0).1 }

/-- Clears the flags of all walkthroughs. -/
def clearFlags (env : Environment) (d : Disk) : Outcome :=
  match Store.openFor env d none with
  | .error e => .failure d (storeFailure unopenedStore e)
  | .ok (store, _) =>
    let r := store.forgetAll d
    match r.answer with
    | .ok n => .success r.disk (clearedText n)
    | .error e => .failure r.disk (storeFailure unclearedFlags e)

/-- Runs a command. -/
def execute (env : Environment) (d : Disk) : Command → Outcome
  | .check file => checkFile d file (d.read file)
  | .reset => clearFlags env d
  | .play file force =>
    match DefinedWalkthrough.load d file with
    | .error e => .failure d (definitionFailure file e)
    | .ok w => launch env d (.ofDefined w) { settings := w.settings, style := w.style, force := force }
  | .demo arguments =>
    match arguments.options with
    | .error f => .failure d f
    | .ok options => launch env d builtInTour options

/-- What is answered to arguments that ask for no command. -/
def refuse (d : Disk) : Fault → Outcome
  | .displayHelp topic => .success d topic.text
  | .displayVersion => .success d versionText
  | _ => ⟨2, "", "", d, none⟩

/-- Runs the program with arguments. -/
def runProgram (env : Environment) (d : Disk) (args : List String) : Outcome :=
  match ofArguments args with
  | .ok c => execute env d c
  | .error fault => refuse d fault

end GuidedTour.Command
