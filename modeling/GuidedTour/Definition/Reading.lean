import GuidedTour.Definition.Checking
import GuidedTour.Definition.Decoding
import GuidedTour.Json.Source
import GuidedTour.Yaml.Source

/-!
# Definitions from texts

A definition is read from a JSON or a YAML text and then checked.

* `Definition.ofJson`, `Definition.ofYaml` - read a text.
-/

namespace GuidedTour

open Decode

namespace Definition

/-- Reads a JSON text without checking the definition. -/
def decodeJson (text : String) : Except Decode.Error Definition := do
  let t := Json.Document.ofText text
  let (d, _) ← (readDefinition t.root).run 0
  if t.complete then return d else throw .malformed

/-- Reads a YAML text without checking the definition. -/
def decodeYaml (text : String) : Except Decode.Error Definition := do
  match Yaml.load text with
  | none => throw .malformed
  | some d =>
    let (d, _) ← (readDefinition (⟨d, d.root, Yaml.depthLimit, false⟩ : Yaml.Position)).run 0
    return d

/-- Reads and checks a JSON text. -/
def ofJson (text : String) : Except DefinitionError Definition := do
  let d ← (decodeJson text).mapError .json
  d.check
  return d

/-- Reads and checks a YAML text. -/
def ofYaml (text : String) : Except DefinitionError Definition := do
  let d ← (decodeYaml text).mapError fun _ => .yaml
  d.check
  return d

end Definition

end GuidedTour
