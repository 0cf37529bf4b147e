import GuidedTour.Definition.Building
import GuidedTour.Definition.Reading
import GuidedTour.Storage.Disk

/-!
# Definitions from files

The extension of a file's name says how it is written. A file is read before its name is looked at, so a
missing file is reported as missing whatever it is called.

* `DefinedWalkthrough.load` - the walkthrough in a file.
-/

namespace GuidedTour

open Storage

/-- How a definition is written down. -/
inductive FileFormat where
  | json
  | yaml
  deriving DecidableEq

/-- What the extension of a file's name says, in any case of its letters. -/
def FileFormat.ofPath? (p : Path) : Option FileFormat :=
  match p.extension?.map (String.map Char.toLower) with
  | some "json" => some .json
  | some "yaml" | some "yml" => some .yaml
  | _ => none

/-- Reads and checks a text. -/
def Definition.ofText : FileFormat → String → Except DefinitionError Definition
  | .json => Definition.ofJson
  | .yaml => Definition.ofYaml

/-- The definition in a file, given what became of reading it. -/
def Definition.ofFile (path : Path) (read : Except IoError String) : Except DefinitionError Definition := do
  let s ← match read with
    | .ok s => .ok s
    | .error e => .error (.unreadable path e)
  match FileFormat.ofPath? path with
  | some format => Definition.ofText format s
  | none => throw (.unsupportedFormat path)

/-- The walkthrough in a file, given what became of reading it. -/
def DefinedWalkthrough.ofFile (path : Path) (read : Except IoError String) :
    Except DefinitionError DefinedWalkthrough := do
  DefinedWalkthrough.ofDefinition (← Definition.ofFile path read)

/-- The walkthrough in a file. -/
def DefinedWalkthrough.load (d : Disk) (path : Path) : Except DefinitionError DefinedWalkthrough :=
  DefinedWalkthrough.ofFile path (d.read path)

end GuidedTour
