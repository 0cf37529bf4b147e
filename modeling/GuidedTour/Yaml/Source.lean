import GuidedTour.Decode.Source
import GuidedTour.Yaml.Node
import GuidedTour.Yaml.Scalar

/-!
# YAML documents as a source

Scalars are untyped: what is wanted decides what they are read as, and only a value that is kept whole is
resolved by its looks. An absent value counts as an empty list or an empty record. Containers may be
nested 128 deep, and aliases may be followed a hundred times as often as the document has nodes.

All faults of a YAML text are one and the same, so every refusal is `malformed`.
-/

namespace GuidedTour.Yaml

open GuidedTour.Decode

/-- A node within its document: how deeply containers may still be nested there, and whether its tag was
already used up. -/
structure Position where
  document : Document
  node     : Node
  depth    : Nat := 128
  tagUsed  : Bool := false

/-- The deepest nesting of containers. -/
def depthLimit : Nat := 128

/-- How often aliases may be followed. -/
def Document.aliasLimit (d : Document) : Nat := 100 * d.root.size

/-- Any refusal. -/
def refuse {α : Type} : Decoder α := throw .malformed

/-- The node that an alias refers to; the count of followed aliases is limited. -/
def follow (d : Document) (id : Nat) : Decoder Node := do
  let followed := (← get) + 1
  set followed
  if d.aliasLimit < followed then refuse
  else match d.target id with
    | some n => return n
    | none => refuse

/-- The position that is meant, behind an alias. -/
def Position.resolve (p : Position) : Decoder Position := do
  match p.node with
  | .alias id => return { p with node := ← follow p.document id }
  | _ => return p

/-- The name of a tag that chooses a variant. -/
def variantTag? (tag : Option String) : Option String :=
  match tag.map String.toList with
  | some ('!' :: rest) => some (String.ofList rest)
  | _ => none

/-- Whether a node's tag chooses a variant. -/
def hasVariantTag : Node → Bool
  | .scalar _ tag _ _ | .list _ tag _ | .map _ tag _ => (variantTag? tag).isSome
  | .alias _ => false

/-- A value as it is kept whole. `depth` bounds the nesting of containers. -/
def toDatum (d : Document) : (depth : Nat) → Node → Decoder Datum
  | depth, n => do
    let n ← match n with
      | .alias id => follow d id
      | n => pure n
    if hasVariantTag n then refuse
    match n, depth with
    | .scalar _ tag text style, _ => resolve tag text style
    | .list _ _ items, depth + 1 => return .list (← items.mapM (toDatum d depth))
    | .map _ _ entries, depth + 1 =>
      return .map (← entries.mapM fun (k, v) => do return (← toDatum d depth k, ← toDatum d depth v))
    | _, _ => refuse

/-- The text of a scalar that is read as a literal of a core type: a plain one, or a literal block with
that type's tag. -/
def literal? (type : String) (p : Position) : Option String :=
  match p.node with
  | .scalar _ tag text style =>
    if style = .plain || (style = .literal && !p.tagUsed && tag = some (coreTag type)) then some text else none
  | _ => none

/-- A position one container deeper. -/
def Position.child (p : Position) (n : Node) : Position := ⟨p.document, n, p.depth - 1, false⟩

/-- Refuses a container that is nested too deeply. -/
def Position.checkDepth (p : Position) : Decoder Unit := if p.depth = 0 then refuse else pure ()

/-- Whether a value is absent. -/
def Node.isAbsent : Node → Bool
  | .scalar _ _ text style => text.isEmpty && style = .plain
  | _ => false

/-- The label that a key makes. -/
def Position.label (p : Position) : Decoder Label := do
  match (← p.resolve).node with
  | .scalar _ _ text _ => return .name text
  | _ => refuse

/-- Reads a literal of a core type. -/
def readLiteral {α : Type} (type : String) (parse : String → Option α) (p : Position) : Decoder α := do
  let p ← p.resolve
  match (literal? type p).bind parse with
  | some a => return a
  | none => refuse

instance : Source Position where
  text p _ := do
    match (← p.resolve).node with
    | .scalar _ _ text _ => return text
    | _ => refuse
  boolean p := readLiteral "bool" boolean? p
  natural p _ := readLiteral "int" (fun s => ((unsigned? s.toList).filter (· < 0x10000000000000000)).map fun n => (n : Int)) p
  integer p _ :=
    readLiteral "int" (fun s => (signed? s.toList).filter fun i => -0x8000000000000000 ≤ i && i < 0x8000000000000000) p
  real p := readLiteral "float" (fun s => (real? s).map Float.toFloat32) p
  optional p := do
    let p ← p.resolve
    match p.node with
    | .scalar _ tag text style =>
      if style ≠ .plain then return some p
      else match tag, p.tagUsed with
        | some t, false =>
          if t = coreTag "null" then (if isNull text then return none else refuse) else return some p
        | _, _ => if text.isEmpty || isNull text then return none else return some p
    | _ => return some p
  sequence p := do
    let p ← p.resolve
    match p.node with
    | .list _ _ items => do
      p.checkDepth
      return ⟨items.map p.child, none⟩
    | n => if n.isAbsent then return ⟨[], none⟩ else refuse
  record p _ := do
    let p ← p.resolve
    match p.node with
    | .map _ _ entries => do
      p.checkDepth
      return .named ⟨← entries.mapM fun (k, v) => do return (← (p.child k).label, p.child v), none⟩
    | n => if n.isAbsent then return .named ⟨[], none⟩ else refuse
  tagged p _ := do
    let p ← p.resolve
    if hasVariantTag p.node then refuse
    match p.node with
    | .list _ _ items => do
      p.checkDepth
      return .positional ⟨items.map p.child, none⟩
    | .map _ _ entries => do
      p.checkDepth
      return .named ⟨← entries.mapM fun (k, v) => do
        return (← toDatum p.document (p.depth - 1) k, p.child v), none⟩
    | _ => refuse
  variant p := do
    let p ← p.resolve
    let chosen := fun (tag : Option String) => (variantTag? tag).map fun t =>
      (⟨.name t, some { p with tagUsed := true }, pure ()⟩ : Choice Position)
    match p.node with
    | .scalar _ tag text _ => return (chosen tag).getD ⟨.name text, none, pure ()⟩
    | .list _ tag _ | .map _ tag _ =>
      match chosen tag with
      | some c => return c
      | none => refuse
    | .alias _ => refuse
  single p _ := do
    let p ← p.resolve
    if hasVariantTag p.node then refuse
    match p.node with
    | .scalar _ tag text style => do
      match ← resolve tag text style with
      | .text s => return ⟨.name s, none, pure ()⟩
      | _ => refuse
    | .map _ _ ((k, v) :: rest) => do
      p.checkDepth
      return ⟨← (p.child k).label, some (p.child v), if rest.isEmpty then pure () else refuse⟩
    | _ => refuse
  unit p := do
    let p ← p.resolve
    match p.node with
    | .scalar _ _ text style =>
      if style = .plain && (text.isEmpty || isNull text) then return () else refuse
    | _ => refuse
  skip _ := pure ()
  datum p := toDatum p.document p.depth p.node
  surplus _ _ := .malformed

end GuidedTour.Yaml
