import GuidedTour.Decode.Source
import GuidedTour.Json.Document

/-!
# JSON texts as a source

A document is walked from left to right: a fault is raised when it is reached, not before. Containers may
be nested 127 deep. Values that are passed over are checked for faults but not for depth.
-/

namespace GuidedTour.Json

open GuidedTour.Decode

/-- The deepest level at which a container is read. -/
def levelLimit : Nat := 127

/-- What a document is called when it is found in a wrong place, unless it is at fault itself. -/
def Document.found : Document → Decoder Found
  | .null => pure .null
  | .bool b => pure (.boolean b)
  | .number (.natural n) => pure (.integer n)
  | .number (.negative n) => pure (.integer (-(n : Int)))
  | .number (.real x) => pure (.real x)
  | .number .outOfRange => throw .malformed
  | .text (some s) => pure (.text s)
  | .text none => throw .malformed
  | .list _ _ => pure .list
  | .object _ _ => pure .map
  | .broken => throw .malformed

/-- Raises that a document is not what was wanted. -/
def Document.mismatch {α : Type} (d : Document) (wanted : String) : Decoder α := do
  throw (.wrongType (← d.found) wanted)

/-- The items as far as they go. -/
def Items.toSequence : Items → Sequence Document
  | .done => ⟨[], none⟩
  | .broken => ⟨[], some .malformed⟩
  | .item v rest => let s := rest.toSequence; ⟨v :: s.items, s.fault⟩

/-- The fields as far as they go. -/
def Fields.toMembers : Fields → Members String Document
  | .done => ⟨[], none⟩
  | .broken | .stray _ | .field none _ _ => ⟨[], some .malformed⟩
  | .field (some k) v rest => let m := rest.toMembers; ⟨(k, v) :: m.entries, m.fault⟩

/-- Refuses a container that is nested too deeply. -/
def checkLevel (level : Nat) : Decoder Unit :=
  if levelLimit < level then throw .malformed else pure ()

mutual

/-- The value as a datum. -/
def Document.toDatum : Document → Decoder Datum
  | .null => pure .null
  | .bool b => pure (.boolean b)
  | .number (.natural n) => pure (.integer n)
  | .number (.negative n) => pure (.integer (-(n : Int)))
  | .number (.real x) => pure (.real x)
  | .number .outOfRange => throw .malformed
  | .text (some s) => pure (.text s)
  | .text none => throw .malformed
  | .list level items => do checkLevel level; return .list (← items.toData)
  | .object level fields => do checkLevel level; return .map (← fields.toData)
  | .broken => throw .malformed

/-- The items as data. -/
def Items.toData : Items → Decoder (List Datum)
  | .done => pure []
  | .broken => throw .malformed
  | .item v rest => do return (← v.toDatum) :: (← rest.toData)

/-- The fields as data. -/
def Fields.toData : Fields → Decoder (List (Datum × Datum))
  | .done => pure []
  | .field (some k) v rest => do return (.text k, ← v.toDatum) :: (← rest.toData)
  | .broken | .stray _ | .field none _ _ => throw .malformed

end

/-- A whole number. -/
def Document.integer? (wanted : String) (d : Document) : Decoder Int :=
  match d with
  | .number (.natural n) => pure n
  | .number (.negative n) => pure (-(n : Int))
  | d => d.mismatch wanted

instance : Source Document where
  text d wanted := match d with
    | .text (some s) => pure s
    | d => d.mismatch wanted
  boolean d := match d with
    | .bool b => pure b
    | d => d.mismatch "a boolean"
  natural d wanted := d.integer? wanted
  integer d wanted := d.integer? wanted
  real d := match d with
    | .number (.natural n) => pure (Float32.ofBits (UInt32.ofNat (Decimal.binary32.bitsOfRatio n 1)))
    | .number (.negative n) => pure (-(Float32.ofBits (UInt32.ofNat (Decimal.binary32.bitsOfRatio n 1))))
    | .number (.real x) => pure (Decimal.toSingle x)
    | d => d.mismatch "f32"
  optional d := match d with
    | .null => pure none
    | d => pure (some d)
  sequence d := match d with
    | .list level items => do checkLevel level; return items.toSequence
    | d => d.mismatch "a sequence"
  record d wanted := match d with
    | .list level items => do checkLevel level; return .positional items.toSequence
    | .object level fields => do
      checkLevel level
      let m := fields.toMembers
      return .named ⟨m.entries.map fun (k, v) => (.name k, v), m.fault⟩
    | d => d.mismatch wanted
  tagged d wanted := match d with
    | .list level items => do checkLevel level; return .positional items.toSequence
    | .object level fields => do
      checkLevel level
      let m := fields.toMembers
      return .named ⟨m.entries.map fun (k, v) => (.text k, v), m.fault⟩
    | d => d.mismatch wanted
  variant d := match d with
    | .text (some s) => pure ⟨.name s, none, pure ()⟩
    | .object level fields => do
      checkLevel level
      match fields with
      | .field (some k) v rest =>
        return ⟨.name k, some v, match rest with | .done => pure () | _ => throw .malformed⟩
      | .stray found => found.mismatch "variant identifier"
      | _ => throw .malformed
    | _ => throw .malformed
  single d wanted := match d with
    | .text (some s) => pure ⟨.name s, none, pure ()⟩
    | .object level fields => do
      checkLevel level
      let several : Error := .wrongValue .map "map with a single key"
      match fields with
      | .done => throw several
      | .field (some k) v rest =>
        return ⟨.name k, some v, match rest with
          | .done => pure ()
          | .field (some _) _ _ => throw several
          | _ => throw .malformed⟩
      | _ => throw .malformed
    | .list level items => do checkLevel level; (Document.list level items).mismatch wanted
    | d => d.mismatch wanted
  unit d := match d with
    | .null => pure ()
    | d => d.mismatch "unit"
  skip d := if d.wellFormed then pure () else throw .malformed
  datum d := d.toDatum
  surplus _ _ := .malformed

end GuidedTour.Json
