import GuidedTour.Decode.Source

/-!
# Datums as a source

A datum is whole, so nothing behind its lists and maps can be at fault. It answers only with the type it
has: a number is no text, and a text is no number.
-/

namespace GuidedTour.Decode

namespace Datum

/-- The label that a datum makes in the place of a name. -/
def label : Datum → Label
  | .text s => .name s
  | .integer i => if 0 ≤ i then .place i.toNat else .other (.integer i)
  | d => .other d.found

/-- An integer. -/
def integer? (wanted : String) : Datum → Decoder Int
  | .integer i => pure i
  | d => throw (.wrongType d.found wanted)

instance : Source Datum where
  text d wanted := match d with
    | .text s => pure s
    | d => throw (.wrongType d.found wanted)
  boolean d := match d with
    | .boolean b => pure b
    | d => throw (.wrongType d.found "a boolean")
  natural d wanted := integer? wanted d
  integer d wanted := integer? wanted d
  real d := match d with
    | .real x => pure x.toFloat32
    | .integer i => pure (Float.ofInt i).toFloat32
    | d => throw (.wrongType d.found "f32")
  optional d := match d with
    | .null => pure none
    | d => pure (some d)
  sequence d := match d with
    | .list items => pure ⟨items, none⟩
    | d => throw (.wrongType d.found "a sequence")
  record d wanted := match d with
    | .list items => pure (.positional ⟨items, none⟩)
    | .map entries => pure (.named ⟨entries.map fun (k, v) => (k.label, v), none⟩)
    | d => throw (.wrongType d.found wanted)
  tagged d wanted := match d with
    | .list items => pure (.positional ⟨items, none⟩)
    | .map entries => pure (.named ⟨entries, none⟩)
    | d => throw (.wrongType d.found wanted)
  variant d := match d with
    | .text s => pure ⟨.name s, none, pure ()⟩
    | .map [(k, v)] => pure ⟨k.label, some v, pure ()⟩
    | .map _ => throw (.wrongValue .map "map with a single key")
    | d => throw (.wrongType d.found "string or map")
  single d wanted := match d with
    | .text s => pure ⟨.name s, none, pure ()⟩
    | .map ((k, v) :: rest) =>
      pure ⟨k.label, some v, unless rest.isEmpty do throw (.wrongValue .map "map with a single key")⟩
    | .map [] => throw (.wrongValue .map "map with a single key")
    | d => throw (.wrongType d.found wanted)
  unit d := match d with
    | .null | .map [] => pure ()
    | d => throw (.wrongType d.found "unit")
  skip _ := pure ()
  datum d := pure d
  surplus taken total :=
    .wrongLength total (toString taken ++ (if taken = 1 then " element" else " elements") ++ " in sequence")

end Datum

end GuidedTour.Decode
