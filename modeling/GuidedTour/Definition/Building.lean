import GuidedTour.Definition.Checking
import GuidedTour.Step

/-!
# From a definition to a walkthrough

The settings, the style and the steps that a definition stands for. Colors are resolved here, so this is
where a color that names nothing is refused.

* `DefinedWalkthrough.ofDefinition` - checks a definition and resolves it.
* `buildLines` - the lines of rich text.
-/

namespace GuidedTour

open Layout Screen

/-- The color that a text names, white space around it aside. -/
def resolveColor (s : String) : Except DefinitionError Color :=
  match Color.ofText? (Text.trim s) with
  | some c => .ok c
  | none => .error (.invalidColor s)

/-- The color that an optional text names. -/
def resolveColorOr (fallback : Color) : Option String → Except DefinitionError Color
  | none => .ok fallback
  | some s => resolveColor s

/-- Color and strength of a veil. -/
def DimSpec.build (d : DimSpec) : Except DefinitionError (Color × Float32) := do
  return (← resolveColorOr (.rgb 0 0 0) d.color, d.alpha.getD defaultDimAlpha)

/-- The presentation mode that is meant. -/
def PresentationSpec.build : PresentationSpec → Except DefinitionError PresentationMode
  | .dimAndHighlight d => do
    let (color, alpha) ← d.build
    return .dimAndHighlight color alpha
  | .dim d => do
    let (color, alpha) ← d.build
    return .dim color alpha
  | .none => .ok .none

/-- A count of cells: negative numbers count as none. -/
def cellCount (i : Int32) : UInt16 := saturate16 i.toInt.toNat

/-- The settings that are meant. -/
def SettingsSpec.build (s : SettingsSpec) : Except DefinitionError Settings := do
  let defaults : Settings := {}
  let mode ← match s.presentationMode with
    | some mode => mode.build
    | none => .ok defaults.presentationMode
  return {
    stepTransition := (s.stepTransitionMs.map fun n => millis n.toNat).getD defaults.stepTransition
    highlightingOffset := match s.highlightingOffset with
      | some o => ⟨cellCount o.x, cellCount o.y⟩
      | none => defaults.highlightingOffset
    automaticDelay := (s.automaticDelayMs.map fun n => millis n.toNat) <|> defaults.automaticDelay
    minBubbleHorizontalMargin := s.minBubbleHorizontalMargin.getD defaults.minBubbleHorizontalMargin
    preferredBubbleMaxWidth := s.preferredBubbleMaxWidth <|> defaults.preferredBubbleMaxWidth
    presentationMode := mode
    dismissOnEscape := s.dismissOnEscape.getD defaults.dismissOnEscape }

/-- The shadow that is meant. -/
def ShadowSpec.build : ShadowSpec → Except DefinitionError (Option ShadowStyle)
  | .none => .ok Option.none
  | .light => .ok (some .light)
  | .dark => .ok (some .dark)
  | .custom offset color opacity => do
    return some ⟨offset, ← resolveColor color, clampUnit opacity⟩

/-- A preset. -/
def StylePreset.style : StylePreset → BubbleStyle
  | .default => {}
  | .white => .white

/-- The style that is meant. -/
def StyleSpec.build (s : StyleSpec) : Except DefinitionError BubbleStyle := do
  let base := s.preset.style
  let text ← resolveColorOr base.textColor s.textColor
  let background ← resolveColorOr base.backgroundColor s.backgroundColor
  let shadow ← match s.shadow with
    | some shadow => shadow.build
    | none => .ok base.shadow
  return {
    textColor := text
    backgroundColor := background
    shadow := shadow
    cornerRadius := s.cornerRadius.getD base.cornerRadius
    textInsets := s.textInsets.getD base.textInsets
    yOffset := s.yOffset.getD base.yOffset
    arrowSize := s.arrowSize.getD base.arrowSize }

/-- The style of a span. -/
def SpanSpec.style (s : SpanSpec) : Except DefinitionError Style := do
  let fg ← match s.color with
    | some c => do pure (some (← resolveColor c))
    | none => .ok none
  let when := fun (b : Bool) (a : Attributes) => if b then a else Attributes.none
  return {
    fg := fg
    attrs := ((when s.bold .bold).union (when s.italic .italic)).union (when s.underline .underlined) }

/-- Adds a piece of text to the last line, unless it is empty. Lines are listed last first. -/
def addPiece (style : Style) (piece : List Char) : List Line → List Line
  | [] => [if piece.isEmpty then [] else [⟨String.ofList piece, style⟩]]
  | l :: rest => (if piece.isEmpty then l else l ++ [⟨String.ofList piece, style⟩]) :: rest

/-- Adds the pieces of a span, each but the first on a new line. Lines are listed last first. -/
def addPieces (style : Style) : List (List Char) → List Line → List Line
  | [], lines => lines
  | piece :: rest, lines =>
    rest.foldl (fun lines piece => addPiece style piece ([] :: lines)) (addPiece style piece lines)

/-- The lines of rich text. -/
def buildLines (spans : List SpanSpec) : Except DefinitionError (List Line) := do
  let lines ← spans.foldlM (fun lines s => do
    return addPieces (← s.style) (Text.splitChars '\n' s.text.toList) lines) [[]]
  return lines.reverse

/-- The content that is meant. -/
def ContentSpec.build : ContentSpec → Except DefinitionError Content
  | .text s => .ok (.plain s)
  | .rich spans => do return .rich (← buildLines spans)

/-- The constraint that a rule stands for. -/
def LayoutRule.build (r : LayoutRule) : Constraint :=
  ⟨r.edge, r.relation, .container r.reference, r.constant, r.priority⟩

/-- The anchor that is meant. -/
def AnchorSpec.build : AnchorSpec → Anchor
  | .view id => .view id
  | .rect r => .rect (.ofCells r)

/-- The step that is meant. -/
def StepSpec.build (step : StepSpec) : Except DefinitionError Step := do
  let content ← step.content.build
  let kind : StepKind := match step with
    | .standalone s =>
      match s.centerOffset with
      | some offset => .standalone (.centerOffset offset)
      | none => .standalone (.layout fun _ => s.layout.map LayoutRule.build)
    | .highlighted s => .highlighted s.anchor.build s.textLocation
  return {
    content := content
    kind := kind
    needsInteraction := step.needsInteraction
    autoAdvance := step.autoAdvanceMs.map fun n => millis n.toNat }

/-- All steps of a definition. -/
def Definition.buildSteps (d : Definition) : Except DefinitionError (List Step) :=
  d.steps.mapM StepSpec.build

/-- A checked definition with its settings and style. -/
structure DefinedWalkthrough where
  definition : Definition
  settings   : Settings
  style      : BubbleStyle
  deriving Inhabited

namespace DefinedWalkthrough

/-- Checks a definition and resolves its settings, style and steps. -/
def ofDefinition (d : Definition) : Except DefinitionError DefinedWalkthrough := do
  d.check
  let settings ← d.settings.build
  let style ← d.style.build
  let _ ← d.buildSteps
  return ⟨d, settings, style⟩

/-- The steps of the walkthrough. -/
def steps (w : DefinedWalkthrough) : List Step :=
  match w.definition.buildSteps with
  | .ok steps => steps
  | .error _ => []

/-- The views that steps point at, each once, in the order of their first use. -/
def anchorViews (w : DefinedWalkthrough) : List String :=
  w.definition.steps.foldl (fun views step =>
    match step with
    | .highlighted s =>
      match s.anchor with
      | .view id => if views.contains id then views else views ++ [id]
      | .rect _ => views
    | .standalone _ => views) []

end DefinedWalkthrough

end GuidedTour
