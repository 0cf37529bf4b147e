import GuidedTour.Decimal.Shortest
import GuidedTour.Text.Quoted

/-!
# Decoding errors

Why a value of a notation could not be read as what was wanted, and the wording of each cause.
-/

namespace GuidedTour.Decode

/-- What was found in the place of something else. -/
inductive Found where
  | null
  | boolean (b : Bool)
  | integer (i : Int)
  | real (x : Float)
  | text (s : String)
  | list
  | map
  | unitVariant

/-- How a finding is named in a message. -/
def Found.describe : Found → String
  | .null => "null"
  | .boolean b => "boolean `" ++ (if b then "true" else "false") ++ "`"
  | .integer i => "integer `" ++ toString i ++ "`"
  | .real x => "floating point `" ++ (Decimal.Binary.ofFloat x).compact ++ "`"
  | .text s => "string " ++ Text.Quoted.quote s
  | .list => "sequence"
  | .map => "map"
  | .unitVariant => "unit variant"

/-- Causes of a failed decoding. -/
inductive Error where
  /-- The text breaks the grammar of its notation, or nests too deeply. -/
  | malformed
  | wrongType (found : Found) (expected : String)
  | wrongValue (found : Found) (expected : String)
  | wrongLength (length : Nat) (expected : String)
  | unknownVariant (name : String) (known : List String)
  | missingField (name : String)
  | duplicateField (name : String)

/-- The known names of a choice, as a message lists them. -/
def oneOf : List String → String
  | [] => "there are no variants"
  | [a] => "expected `" ++ a ++ "`"
  | [a, b] => "expected `" ++ a ++ "` or `" ++ b ++ "`"
  | names => "expected one of " ++ String.intercalate ", " (names.map fun n => "`" ++ n ++ "`")

/-- The wording of a cause. -/
def Error.message : Error → String
  | .malformed => "malformed"
  | .wrongType found expected => "invalid type: " ++ found.describe ++ ", expected " ++ expected
  | .wrongValue found expected => "invalid value: " ++ found.describe ++ ", expected " ++ expected
  | .wrongLength n expected => "invalid length " ++ toString n ++ ", expected " ++ expected
  | .unknownVariant name known => "unknown variant `" ++ name ++ "`, " ++ oneOf known
  | .missingField name => "missing field `" ++ name ++ "`"
  | .duplicateField name => "duplicate field `" ++ name ++ "`"

end GuidedTour.Decode
