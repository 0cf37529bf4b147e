import GuidedTour.Definition.Basic
import GuidedTour.Decode.Datum

/-!
# Reading definitions

The schema of a definition, over any source. Settings and style are read as they stand; a step is first
kept whole, because the field that names its kind may come last, and is then read as a datum.

* `readDefinition` - the whole schema.
* `readStep` - one step.
-/

namespace GuidedTour.Definition

open Decode Layout

variable {ν : Type} [Source ν]

/-- A field of a record under construction: `get` and `set` are its slot, `none` while it is not given. -/
def slot {σ α : Type} (name : String) (get : σ → Option α) (set : σ → α → σ) (read : ν → Decoder α)
    (required : Bool := false) : Field ν σ where
  name := name
  required := required
  given s := (get s).isSome
  read s v := do return set s (← read v)

/-! ## Small records -/

/-- Slots of an offset. -/
structure OffsetSlots where
  x : Option Int32 := none
  y : Option Int32 := none

/-- Reads an offset; absent coordinates are zero. -/
def readOffset (v : ν) : Decoder Offset := do
  let s ← readRecord "struct Offset"
    [slot "x" OffsetSlots.x (fun s a => { s with x := some a }) readInt32,
     slot "y" OffsetSlots.y (fun s a => { s with y := some a }) readInt32] {} v
  return ⟨s.x.getD 0, s.y.getD 0⟩

/-- Slots of a size. -/
structure SizeSlots where
  width  : Option UInt16 := none
  height : Option UInt16 := none

/-- Reads a size. -/
def readCellSize (v : ν) : Decoder CellSize := do
  let s ← readRecord "struct CellSize"
    [slot "width" SizeSlots.width (fun s a => { s with width := some a }) readUInt16 true,
     slot "height" SizeSlots.height (fun s a => { s with height := some a }) readUInt16 true] {} v
  return ⟨← require "width" s.width, ← require "height" s.height⟩

/-- Slots of insets. -/
structure InsetsSlots where
  top    : Option UInt16 := none
  left   : Option UInt16 := none
  bottom : Option UInt16 := none
  right  : Option UInt16 := none

/-- Reads insets; absent sides are zero. -/
def readInsets (v : ν) : Decoder EdgeInsets := do
  let s ← readRecord "struct EdgeInsets"
    [slot "top" InsetsSlots.top (fun s a => { s with top := some a }) readUInt16,
     slot "left" InsetsSlots.left (fun s a => { s with left := some a }) readUInt16,
     slot "bottom" InsetsSlots.bottom (fun s a => { s with bottom := some a }) readUInt16,
     slot "right" InsetsSlots.right (fun s a => { s with right := some a }) readUInt16] {} v
  return ⟨s.top.getD 0, s.left.getD 0, s.bottom.getD 0, s.right.getD 0⟩

/-- Slots of a rectangle. -/
structure RectSlots where
  x      : Option UInt16 := none
  y      : Option UInt16 := none
  width  : Option UInt16 := none
  height : Option UInt16 := none

/-- Reads a rectangle. -/
def readCellRect (v : ν) : Decoder CellRect := do
  let s ← readRecord "struct CellRect"
    [slot "x" RectSlots.x (fun s a => { s with x := some a }) readUInt16 true,
     slot "y" RectSlots.y (fun s a => { s with y := some a }) readUInt16 true,
     slot "width" RectSlots.width (fun s a => { s with width := some a }) readUInt16 true,
     slot "height" RectSlots.height (fun s a => { s with height := some a }) readUInt16 true] {} v
  return ⟨← require "x" s.x, ← require "y" s.y, ← require "width" s.width, ← require "height" s.height⟩

/-! ## Settings -/

/-- Slots of a veil. -/
structure DimSlots where
  color : Option (Option String) := none
  alpha : Option (Option Float32) := none

/-- Reads a veil. -/
def readDim (v : ν) : Decoder DimSpec := do
  let s ← readRecord "struct DimDefinition"
    [slot "color" DimSlots.color (fun s a => { s with color := some a }) (readOptional readText),
     slot "alpha" DimSlots.alpha (fun s a => { s with alpha := some a }) (readOptional Source.real)] {} v
  return ⟨s.color.join, s.alpha.join⟩

/-- The payload of a variant that carries a value. -/
def payload (c : Choice ν) (wanted : String) : Decoder ν :=
  match c.payload with
  | some p => pure p
  | none => throw (.wrongType .unitVariant wanted)

/-- A variant that carries nothing, in the form that may be a bare name. -/
def bare (c : Choice ν) : Decoder Unit :=
  match c.payload with
  | some _ => throw (.wrongType .map "unit variant")
  | none => pure ()

/-- Reads a presentation mode. -/
def readPresentation (v : ν) : Decoder PresentationSpec := do
  let c ← Source.single v "enum PresentationModeDefinition"
  match ← placeOf ["dim_and_highlight", "dim", "none"] c.label with
  | 0 => do
    let d ← readDim (← payload c "newtype variant")
    c.close
    return .dimAndHighlight d
  | 1 => do
    let d ← readDim (← payload c "newtype variant")
    c.close
    return .dim d
  | _ => do
    bare c
    return .none

/-- Slots of the settings. -/
structure SettingsSlots where
  stepTransitionMs : Option (Option UInt64) := none
  highlightingOffset : Option (Option Offset) := none
  automaticDelayMs : Option (Option UInt64) := none
  minBubbleHorizontalMargin : Option (Option UInt16) := none
  preferredBubbleMaxWidth : Option (Option UInt16) := none
  presentationMode : Option (Option PresentationSpec) := none
  dismissOnEscape : Option (Option Bool) := none

/-- Reads the settings. -/
def readSettings (v : ν) : Decoder SettingsSpec := do
  let s ← readRecord "struct SettingsDefinition"
    [slot "step_transition_ms" SettingsSlots.stepTransitionMs
       (fun s a => { s with stepTransitionMs := some a }) (readOptional readUInt64),
     slot "highlighting_offset" SettingsSlots.highlightingOffset
       (fun s a => { s with highlightingOffset := some a }) (readOptional readOffset),
     slot "automatic_delay_ms" SettingsSlots.automaticDelayMs
       (fun s a => { s with automaticDelayMs := some a }) (readOptional readUInt64),
     slot "min_bubble_horizontal_margin" SettingsSlots.minBubbleHorizontalMargin
       (fun s a => { s with minBubbleHorizontalMargin := some a }) (readOptional readUInt16),
     slot "preferred_bubble_max_width" SettingsSlots.preferredBubbleMaxWidth
       (fun s a => { s with preferredBubbleMaxWidth := some a }) (readOptional readUInt16),
     slot "presentation_mode" SettingsSlots.presentationMode
       (fun s a => { s with presentationMode := some a }) (readOptional readPresentation),
     slot "dismiss_on_escape" SettingsSlots.dismissOnEscape
       (fun s a => { s with dismissOnEscape := some a }) (readOptional Source.boolean)] {} v
  return {
    stepTransitionMs := s.stepTransitionMs.join
    highlightingOffset := s.highlightingOffset.join
    automaticDelayMs := s.automaticDelayMs.join
    minBubbleHorizontalMargin := s.minBubbleHorizontalMargin.join
    preferredBubbleMaxWidth := s.preferredBubbleMaxWidth.join
    presentationMode := s.presentationMode.join
    dismissOnEscape := s.dismissOnEscape.join }

/-! ## Style -/

/-- Slots of a custom shadow. -/
structure ShadowSlots where
  offset : Option Offset := none
  color : Option String := none
  opacity : Option Float32 := none

/-- Reads a custom shadow. -/
def readCustomShadow (v : ν) : Decoder ShadowSpec := do
  let s ← readRecord "struct variant ShadowDefinition::Custom"
    [slot "offset" ShadowSlots.offset (fun s a => { s with offset := some a }) readOffset,
     slot "color" ShadowSlots.color (fun s a => { s with color := some a }) readText true,
     slot "opacity" ShadowSlots.opacity (fun s a => { s with opacity := some a }) Source.real true] {} v
  return .custom (s.offset.getD .zero) (← require "color" s.color) (← require "opacity" s.opacity)

/-- Reads a shadow. -/
def readShadow (v : ν) : Decoder ShadowSpec := do
  let c ← Source.single v "enum ShadowDefinition"
  match ← placeOf ["none", "light", "dark", "custom"] c.label with
  | 0 => do bare c; return .none
  | 1 => do bare c; return .light
  | 2 => do bare c; return .dark
  | _ => do
    let s ← readCustomShadow (← payload c "struct variant")
    c.close
    return s

/-- Slots of a style. -/
structure StyleSlots where
  preset : Option StylePreset := none
  textColor : Option (Option String) := none
  backgroundColor : Option (Option String) := none
  shadow : Option (Option ShadowSpec) := none
  cornerRadius : Option (Option UInt16) := none
  textInsets : Option (Option EdgeInsets) := none
  yOffset : Option (Option UInt16) := none
  arrowSize : Option (Option CellSize) := none

/-- Names of the style presets. -/
def presetNames : List (String × StylePreset) := [("default", .default), ("white", .white)]

/-- Reads a style. -/
def readStyle (v : ν) : Decoder StyleSpec := do
  let s ← readRecord "struct StyleDefinition"
    [slot "preset" StyleSlots.preset
       (fun s a => { s with preset := some a }) (readUnitVariant presetNames),
     slot "text_color" StyleSlots.textColor
       (fun s a => { s with textColor := some a }) (readOptional readText),
     slot "background_color" StyleSlots.backgroundColor
       (fun s a => { s with backgroundColor := some a }) (readOptional readText),
     slot "shadow" StyleSlots.shadow
       (fun s a => { s with shadow := some a }) (readOptional readShadow),
     slot "corner_radius" StyleSlots.cornerRadius
       (fun s a => { s with cornerRadius := some a }) (readOptional readUInt16),
     slot "text_insets" StyleSlots.textInsets
       (fun s a => { s with textInsets := some a }) (readOptional readInsets),
     slot "y_offset" StyleSlots.yOffset
       (fun s a => { s with yOffset := some a }) (readOptional readUInt16),
     slot "arrow_size" StyleSlots.arrowSize
       (fun s a => { s with arrowSize := some a }) (readOptional readCellSize)] {} v
  return {
    preset := s.preset.getD .default
    textColor := s.textColor.join
    backgroundColor := s.backgroundColor.join
    shadow := s.shadow.join
    cornerRadius := s.cornerRadius.join
    textInsets := s.textInsets.join
    yOffset := s.yOffset.join
    arrowSize := s.arrowSize.join }

/-! ## Steps -/

/-- Names of the edges. -/
def edgeNames : List (String × Edge) :=
  [("left", .left), ("right", .right), ("center_x", .centerX), ("top", .top), ("bottom", .bottom),
   ("center_y", .centerY)]

/-- Names of the relations. -/
def relationNames : List (String × Relation) :=
  [("equal", .equal), ("greater_or_equal", .greaterOrEqual), ("less_or_equal", .lessOrEqual)]

/-- Names of the priorities. -/
def priorityNames : List (String × Priority) := [("low", .low), ("required", .required)]

/-- Names of the text locations. -/
def locationNames : List (String × TextLocation) := [("above", .above), ("below", .below)]

/-- Slots of a span. -/
structure SpanSlots where
  text : Option String := none
  bold : Option Bool := none
  italic : Option Bool := none
  underline : Option Bool := none
  color : Option (Option String) := none

/-- Reads a span. -/
def readSpan (v : ν) : Decoder SpanSpec := do
  let s ← readRecord "struct SpanDefinition"
    [slot "text" SpanSlots.text (fun s a => { s with text := some a }) readText,
     slot "bold" SpanSlots.bold (fun s a => { s with bold := some a }) Source.boolean,
     slot "italic" SpanSlots.italic (fun s a => { s with italic := some a }) Source.boolean,
     slot "underline" SpanSlots.underline (fun s a => { s with underline := some a }) Source.boolean,
     slot "color" SpanSlots.color (fun s a => { s with color := some a }) (readOptional readText)] {} v
  return ⟨s.text.getD "", s.bold.getD false, s.italic.getD false, s.underline.getD false, s.color.join⟩

/-- Reads the body of a bubble. -/
def readContent (v : ν) : Decoder ContentSpec := do
  let c ← Source.variant v
  match ← placeOf ["text", "rich"] c.label with
  | 0 => do
    let s ← readText (← payload c "newtype variant")
    c.close
    return .text s
  | _ => do
    let spans ← readList readSpan (← payload c "newtype variant")
    c.close
    return .rich spans

/-- Reads the area that a step points at. -/
def readAnchor (v : ν) : Decoder AnchorSpec := do
  let c ← Source.variant v
  match ← placeOf ["view", "rect"] c.label with
  | 0 => do
    let s ← readText (← payload c "newtype variant")
    c.close
    return .view s
  | _ => do
    let r ← readCellRect (← payload c "newtype variant")
    c.close
    return .rect r

/-- Slots of a layout rule. -/
structure RuleSlots where
  edge : Option Edge := none
  relation : Option Relation := none
  reference : Option Edge := none
  constant : Option Int32 := none
  priority : Option Priority := none

/-- Reads a layout rule. -/
def readRule (v : ν) : Decoder LayoutRule := do
  let s ← readRecord "struct LayoutRuleDefinition"
    [slot "edge" RuleSlots.edge
       (fun s a => { s with edge := some a }) (readUnitVariant edgeNames) true,
     slot "relation" RuleSlots.relation
       (fun s a => { s with relation := some a }) (readUnitVariant relationNames),
     slot "reference" RuleSlots.reference
       (fun s a => { s with reference := some a }) (readUnitVariant edgeNames) true,
     slot "constant" RuleSlots.constant
       (fun s a => { s with constant := some a }) readInt32,
     slot "priority" RuleSlots.priority
       (fun s a => { s with priority := some a }) (readUnitVariant priorityNames)] {} v
  return ⟨← require "edge" s.edge, s.relation.getD .equal, ← require "reference" s.reference,
    s.constant.getD 0, s.priority.getD .required⟩

/-- Slots of a standalone step. -/
structure StandaloneSlots where
  content : Option ContentSpec := none
  centerOffset : Option (Option Offset) := none
  layout : Option (List LayoutRule) := none
  needsInteraction : Option Bool := none
  autoAdvanceMs : Option (Option UInt64) := none

/-- Reads a standalone step. -/
def readStandalone (v : ν) : Decoder StandaloneSpec := do
  let s ← readRecord "struct StandaloneStepDefinition"
    [slot "content" StandaloneSlots.content
       (fun s a => { s with content := some a }) readContent true,
     slot "center_offset" StandaloneSlots.centerOffset
       (fun s a => { s with centerOffset := some a }) (readOptional readOffset),
     slot "layout" StandaloneSlots.layout
       (fun s a => { s with layout := some a }) (readList readRule),
     slot "needs_interaction" StandaloneSlots.needsInteraction
       (fun s a => { s with needsInteraction := some a }) Source.boolean,
     slot "auto_advance_ms" StandaloneSlots.autoAdvanceMs
       (fun s a => { s with autoAdvanceMs := some a }) (readOptional readUInt64)] {} v
  return ⟨← require "content" s.content, s.centerOffset.join, s.layout.getD [],
    s.needsInteraction.getD false, s.autoAdvanceMs.join⟩

/-- Slots of a highlighted step. -/
structure HighlightedSlots where
  content : Option ContentSpec := none
  anchor : Option AnchorSpec := none
  textLocation : Option TextLocation := none
  needsInteraction : Option Bool := none
  autoAdvanceMs : Option (Option UInt64) := none

/-- Reads a highlighted step. -/
def readHighlighted (v : ν) : Decoder HighlightedSpec := do
  let s ← readRecord "struct HighlightedStepDefinition"
    [slot "content" HighlightedSlots.content
       (fun s a => { s with content := some a }) readContent true,
     slot "anchor" HighlightedSlots.anchor
       (fun s a => { s with anchor := some a }) readAnchor true,
     slot "text_location" HighlightedSlots.textLocation
       (fun s a => { s with textLocation := some a }) (readUnitVariant locationNames),
     slot "needs_interaction" HighlightedSlots.needsInteraction
       (fun s a => { s with needsInteraction := some a }) Source.boolean,
     slot "auto_advance_ms" HighlightedSlots.autoAdvanceMs
       (fun s a => { s with autoAdvanceMs := some a }) (readOptional readUInt64)] {} v
  return ⟨← require "content" s.content, ← require "anchor" s.anchor, s.textLocation.getD .below,
    s.needsInteraction.getD false, s.autoAdvanceMs.join⟩

/-- The kinds of steps. -/
inductive KindName where
  | standalone
  | highlighted
  deriving DecidableEq

/-- The field that names a step's kind. -/
def kindField : String := "kind"

/-- Reads the name of a kind. -/
def readKind (v : ν) : Decoder KindName := do
  let s ← Source.text v "variant identifier"
  match ← placeOf ["standalone", "highlighted"] (.name s) with
  | 0 => return .standalone
  | _ => return .highlighted

/-- Takes in one field of a step: the kind is read at once, any other field is kept whole. The fields kept
so far are listed last first. -/
def keepField (acc : Option KindName × List (Datum × Datum)) (field : Datum × ν) :
    Decoder (Option KindName × List (Datum × Datum)) := do
  let isKind := match field.1 with
    | .text s => s == kindField
    | _ => false
  if isKind then
    if acc.1.isSome then throw (.duplicateField kindField)
    return (some (← readKind field.2), acc.2)
  return (acc.1, (field.1, ← Source.datum field.2) :: acc.2)

/-- Sets the kind aside from the other fields, which are kept in order. -/
def splitKind (m : Members Datum ν) : Decoder (KindName × Datum) := do
  let (kind, kept) ← m.entries.foldlM keepField (none, [])
  endOf m.fault
  match kind with
  | some k => return (k, .map kept.reverse)
  | none => throw (.missingField kindField)

/-- Takes the kind from the head of a list; the other items are kept whole. -/
def headKind (s : Sequence ν) : Decoder (KindName × Datum) := do
  match s.items with
  | [] => do endOf s.fault; throw (.missingField kindField)
  | head :: rest => do
    let kind ← readKind head
    let items ← rest.mapM Source.datum
    endOf s.fault
    return (kind, .list items)

/-- Reads a step. -/
def readStep (v : ν) : Decoder StepSpec := do
  let (kind, rest) ← match ← Source.tagged v "internally tagged enum StepDefinition" with
    | .positional s => headKind s
    | .named m => splitKind m
  match kind with
  | .standalone => return .standalone (← readStandalone rest)
  | .highlighted => return .highlighted (← readHighlighted rest)

/-! ## Definitions -/

/-- Slots of a definition. -/
structure DefinitionSlots where
  id : Option String := none
  title : Option (Option String) := none
  settings : Option SettingsSpec := none
  style : Option StyleSpec := none
  steps : Option (List StepSpec) := none

/-- Reads a definition. -/
def readDefinition (v : ν) : Decoder Definition := do
  let s ← readRecord "struct WalkthroughDefinition"
    [slot "id" DefinitionSlots.id (fun s a => { s with id := some a }) readText true,
     slot "title" DefinitionSlots.title (fun s a => { s with title := some a }) (readOptional readText),
     slot "settings" DefinitionSlots.settings (fun s a => { s with settings := some a }) readSettings,
     slot "style" DefinitionSlots.style (fun s a => { s with style := some a }) readStyle,
     slot "steps" DefinitionSlots.steps (fun s a => { s with steps := some a }) (readList readStep)] {} v
  return {
    id := ← require "id" s.id
    title := s.title.join
    settings := s.settings.getD {}
    style := s.style.getD {}
    steps := s.steps.getD [] }

end GuidedTour.Definition
