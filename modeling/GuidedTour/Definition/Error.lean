import GuidedTour.Decode.Error
import GuidedTour.Storage.Disk

/-!
# Why a definition is refused

The causes, from an unreadable file to a color that names nothing, and the wording of each.
-/

namespace GuidedTour

/-- Why a definition is refused. Steps are counted from zero. -/
inductive DefinitionError where
  | unreadable (path : Storage.Path) (cause : Storage.IoError)
  | json (cause : Decode.Error)
  | yaml
  | unsupportedFormat (path : String)
  | missingPlacement (index : Nat)
  | ambiguousPlacement (index : Nat)
  | emptyContent (index : Nat)
  | emptyAnchor (index : Nat)
  | invalidColor (value : String)
  | invalidAlpha (value : Float32)

namespace DefinitionError

/-- The kind of a refusal. A JSON text that is malformed is told apart from one that does not fit. -/
def kind : DefinitionError → String
  | .unreadable _ _ => "Io"
  | .json .malformed => "JsonSyntax"
  | .json _ => "Json"
  | .yaml => "Yaml"
  | .unsupportedFormat _ => "UnsupportedFormat"
  | .missingPlacement _ => "MissingPlacement"
  | .ambiguousPlacement _ => "AmbiguousPlacement"
  | .emptyContent _ => "EmptyContent"
  | .emptyAnchor _ => "EmptyAnchor"
  | .invalidColor _ => "InvalidColor"
  | .invalidAlpha _ => "InvalidAlpha"

/-- The wording of a refusal. -/
def message : DefinitionError → String
  | .unreadable path cause => "failed to read walkthrough definition " ++ path ++ ": " ++ cause.message
  | .json cause => "invalid JSON walkthrough definition: " ++ cause.message
  | .yaml => "invalid YAML walkthrough definition"
  | .unsupportedFormat path =>
    "unsupported walkthrough definition format for " ++ path ++ " (expected .json, .yaml or .yml)"
  | .missingPlacement i => "standalone step " ++ toString i ++ " needs either \x60center_offset\x60 or \x60layout\x60"
  | .ambiguousPlacement i =>
    "standalone step " ++ toString i ++ " declares both \x60center_offset\x60 and \x60layout\x60"
  | .emptyContent i => "step " ++ toString i ++ " has empty content"
  | .emptyAnchor i => "step " ++ toString i ++ " anchors to a view with an empty identifier"
  | .invalidColor value => "invalid color '" ++ value ++ "'"
  | .invalidAlpha value =>
    "alpha must be between 0 and 1, got " ++ (Decimal.Binary.ofFloat32 value).positional

end DefinitionError

end GuidedTour
