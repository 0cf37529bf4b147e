import GuidedTour.Decode.Error

/-!
# Sources of decoded values

A schema asks for a text, a number, a record; a notation answers. `Source` lists the questions, so that
each schema is written once and serves every notation. The answers of a record or a list come with what
is to be said when they run out, because a text may break off in the middle.

* `Datum` - a whole value without a notation, kept when its meaning depends on a tag found later.
* `readRecord` - fills a record from named fields or from positions.
* `readList` - decodes every item of a list.
-/

namespace GuidedTour.Decode

/-- A decoder may fail, and it counts the references that it followed, since a notation may limit how
far references multiply. -/
abbrev Decoder := StateT Nat (Except Error)

/-- A whole value without a notation. -/
inductive Datum where
  | null
  | boolean (b : Bool)
  | integer (i : Int)
  | real (x : Float)
  | text (s : String)
  | list (items : List Datum)
  | map (entries : List (Datum × Datum))
  deriving Inhabited

/-- What a value is called when it is found in a wrong place. -/
def Datum.found : Datum → Found
  | .null => .null
  | .boolean b => .boolean b
  | .integer i => .integer i
  | .real x => .real x
  | .text s => .text s
  | .list _ => .list
  | .map _ => .map

/-- The name of a field or of a variant: its text, its place in the declaration, or something that
names nothing. -/
inductive Label where
  | name (s : String)
  | place (n : Nat)
  | other (found : Found)

/-- The values of a list in order, and the fault that stands behind the last one, if any. -/
structure Sequence (ν : Type) where
  items : List ν
  fault : Option Error

/-- The labelled values of a map in order, and the fault behind the last one, if any. -/
structure Members (κ ν : Type) where
  entries : List (κ × ν)
  fault   : Option Error

/-- A record is written as a list of its fields or as a map from their names. -/
inductive Shape (κ ν : Type) where
  | positional (s : Sequence ν)
  | named (m : Members κ ν)

/-- A chosen variant, with its payload and what is to be checked behind the payload. -/
structure Choice (ν : Type) where
  label   : Label
  payload : Option ν
  close   : Decoder Unit

/-- The questions that a schema asks of a value. The texts name what was wanted. -/
class Source (ν : Type) where
  text     : ν → (wanted : String) → Decoder String
  boolean  : ν → Decoder Bool
  natural  : ν → (wanted : String) → Decoder Int
  integer  : ν → (wanted : String) → Decoder Int
  real     : ν → Decoder Float32
  optional : ν → Decoder (Option ν)
  sequence : ν → Decoder (Sequence ν)
  record   : ν → (wanted : String) → Decoder (Shape Label ν)
  /-- A record that names its kind in one of its fields. -/
  tagged   : ν → (wanted : String) → Decoder (Shape Datum ν)
  /-- A variant; without a payload, or with one that `unit` or another reader takes. -/
  variant  : ν → Decoder (Choice ν)
  /-- A variant written as a bare name or as a map with a single entry. -/
  single   : ν → (wanted : String) → Decoder (Choice ν)
  unit     : ν → Decoder Unit
  skip     : ν → Decoder Unit
  datum    : ν → Decoder Datum
  /-- What is wrong with a list that goes on after the `taken` values of a record. -/
  surplus  : (taken total : Nat) → Error

/-- Raises the fault behind a sequence, if there is one. -/
def endOf : Option Error → Decoder Unit
  | none => pure ()
  | some e => throw e

section Numbers

variable {ν : Type} [Source ν]

/-- An unsigned number below `limit`. -/
def readNatural (wanted : String) (limit : Nat) (v : ν) : Decoder Nat := do
  let i ← Source.natural v wanted
  if 0 ≤ i ∧ i < limit then return i.toNat else throw (.wrongValue (.integer i) wanted)

/-- A 16-bit unsigned number. -/
def readUInt16 (v : ν) : Decoder UInt16 := do
  return UInt16.ofNat (← readNatural "u16" 0x10000 v)

/-- A 64-bit unsigned number. -/
def readUInt64 (v : ν) : Decoder UInt64 := do
  return UInt64.ofNat (← readNatural "u64" 0x10000000000000000 v)

/-- A 32-bit signed number. -/
def readInt32 (v : ν) : Decoder Int32 := do
  let i ← Source.integer v "i32"
  if -0x80000000 ≤ i ∧ i < 0x80000000 then return Int32.ofInt i else throw (.wrongValue (.integer i) "i32")

/-- A text. -/
def readText (v : ν) : Decoder String := Source.text v "a string"

/-- A value that may be absent. -/
def readOptional {α : Type} (read : ν → Decoder α) (v : ν) : Decoder (Option α) := do
  match ← Source.optional v with
  | none => return none
  | some v => return some (← read v)

/-- Every item of a list. -/
def readList {α : Type} (read : ν → Decoder α) (v : ν) : Decoder (List α) := do
  let s ← Source.sequence v
  let out ← s.items.mapM read
  endOf s.fault
  return out

end Numbers

section Records

variable {ν σ : Type} [Source ν]

/-- A field of a record that is being filled: whether it was given already, and how a value is read
into it. A required field has no default. -/
structure Field (ν σ : Type) where
  name     : String
  required : Bool
  given    : σ → Bool
  read     : σ → ν → Decoder σ

/-- Fills in one labelled value: a known field once, an unknown one is passed over. -/
def fillNamed (fields : List (Field ν σ)) (s : σ) (label : Label) (v : ν) : Decoder σ := do
  let known : Option (Field ν σ) ← match label with
    | .name n => pure (fields.find? (·.name == n))
    | .place i => pure fields[i]?
    | .other found => throw (.wrongType found "field identifier")
  match known with
  | none => do Source.skip v; return s
  | some f => if f.given s then throw (.duplicateField f.name) else f.read s v

/-- Fills the fields from a map, in the map's order. -/
def fillFromMembers (fields : List (Field ν σ)) (s : σ) (m : Members Label ν) : Decoder σ := do
  let s ← m.entries.foldlM (fun s (label, v) => fillNamed fields s label v) s
  endOf m.fault
  return s

/-- Fills the fields in their order from a list; those past its end keep their defaults. -/
def fillFromItems (wanted : String) (fault : Option Error) :
    List (Field ν σ) → (taken : Nat) → List ν → σ → Decoder σ
  | [], taken, items, s => do
    unless items.isEmpty do throw (Source.surplus ν taken (taken + items.length))
    endOf fault
    return s
  | f :: fields, taken, v :: items, s => do
    fillFromItems wanted fault fields (taken + 1) items (← f.read s v)
  | f :: fields, taken, [], s => do
    endOf fault
    if f.required then throw (.wrongLength taken wanted)
    fillFromItems wanted fault fields taken [] s

/-- Fills a record from a list or from a map. `name` is the record's name in messages. -/
def fillRecord (name : String) (fields : List (Field ν σ)) (s : σ) (shape : Shape Label ν) : Decoder σ :=
  match shape with
  | .positional seq =>
    fillFromItems (name ++ " with " ++ toString fields.length ++ " elements") seq.fault fields 0 seq.items s
  | .named m => fillFromMembers fields s m

/-- Reads a record. -/
def readRecord (name : String) (fields : List (Field ν σ)) (s : σ) (v : ν) : Decoder σ := do
  fillRecord name fields s (← Source.record v name)

/-- The value of a required field. -/
def require {α : Type} (name : String) : Option α → Decoder α
  | some a => pure a
  | none => throw (.missingField name)

end Records

section Variants

variable {ν : Type} [Source ν]

/-- The place of a label among the known names. -/
def placeOf (known : List String) : Label → Decoder Nat
  | .name s =>
    match known.findIdx? (· == s) with
    | some i => pure i
    | none => throw (.unknownVariant s known)
  | .place i =>
    if i < known.length then pure i
    else throw (.wrongValue (.integer i) ("variant index 0 <= i < " ++ toString known.length))
  | .other found => throw (.wrongType found "variant identifier")

/-- A variant without a payload, given by its name or with an empty payload. -/
def readUnitVariant {α : Type} (names : List (String × α)) (v : ν) : Decoder α := do
  let c ← Source.variant v
  let i ← placeOf (names.map (·.1)) c.label
  match c.payload with
  | none => pure ()
  | some p => do Source.unit p; c.close
  match names[i]? with
  | some (_, a) => return a
  | none => throw .malformed

end Variants

end GuidedTour.Decode
