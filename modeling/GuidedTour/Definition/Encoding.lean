import GuidedTour.Definition.Decoding
import GuidedTour.Json

/-!
# Writing definitions

A definition as JSON. Every field is written, absent ones as `null`, and a step begins with its kind.

* `Definition.toJson` - the whole definition.
-/

namespace GuidedTour

open Layout

/-- The name under which a value is listed. -/
def nameIn {α : Type} [DecidableEq α] (names : List (String × α)) (a : α) : String :=
  ((names.find? fun p => p.2 = a).map (·.1)).getD ""

/-- A 16-bit number. -/
def UInt16.toJson (n : UInt16) : Json := .integer n.toNat

/-- A 64-bit number. -/
def UInt64.toJson (n : UInt64) : Json := .integer n.toNat

/-- An offset. -/
def Offset.toJson (o : Offset) : Json := .object [("x", .integer o.x.toInt), ("y", .integer o.y.toInt)]

/-- A size. -/
def CellSize.toJson (s : CellSize) : Json :=
  .object [("width", UInt16.toJson s.width), ("height", UInt16.toJson s.height)]

/-- Insets. -/
def EdgeInsets.toJson (i : EdgeInsets) : Json :=
  .object [("top", UInt16.toJson i.top), ("left", UInt16.toJson i.left),
    ("bottom", UInt16.toJson i.bottom), ("right", UInt16.toJson i.right)]

/-- A rectangle. -/
def CellRect.toJson (r : CellRect) : Json :=
  .object [("x", UInt16.toJson r.x), ("y", UInt16.toJson r.y),
    ("width", UInt16.toJson r.width), ("height", UInt16.toJson r.height)]

/-- A veil. -/
def DimSpec.toJson (d : DimSpec) : Json :=
  .object [("color", Json.ofOption .text d.color), ("alpha", Json.ofOption Json.ofFloat32 d.alpha)]

/-- A presentation mode. -/
def PresentationSpec.toJson : PresentationSpec → Json
  | .dimAndHighlight d => .object [("dim_and_highlight", d.toJson)]
  | .dim d => .object [("dim", d.toJson)]
  | .none => .text "none"

/-- Settings. -/
def SettingsSpec.toJson (s : SettingsSpec) : Json :=
  .object [
    ("step_transition_ms", Json.ofOption UInt64.toJson s.stepTransitionMs),
    ("highlighting_offset", Json.ofOption Offset.toJson s.highlightingOffset),
    ("automatic_delay_ms", Json.ofOption UInt64.toJson s.automaticDelayMs),
    ("min_bubble_horizontal_margin", Json.ofOption UInt16.toJson s.minBubbleHorizontalMargin),
    ("preferred_bubble_max_width", Json.ofOption UInt16.toJson s.preferredBubbleMaxWidth),
    ("presentation_mode", Json.ofOption PresentationSpec.toJson s.presentationMode),
    ("dismiss_on_escape", Json.ofOption .bool s.dismissOnEscape)]

/-- A shadow. The fields of one of its own are put together as data first, which know double precision
only. -/
def ShadowSpec.toJson : ShadowSpec → Json
  | .none => .text "none"
  | .light => .text "light"
  | .dark => .text "dark"
  | .custom offset color opacity =>
    .object [("custom", .object [("offset", offset.toJson), ("color", .text color),
      ("opacity", Json.ofWidened opacity)])]

/-- A style. -/
def StyleSpec.toJson (s : StyleSpec) : Json :=
  .object [
    ("preset", .text (nameIn Definition.presetNames s.preset)),
    ("text_color", Json.ofOption .text s.textColor),
    ("background_color", Json.ofOption .text s.backgroundColor),
    ("shadow", Json.ofOption ShadowSpec.toJson s.shadow),
    ("corner_radius", Json.ofOption UInt16.toJson s.cornerRadius),
    ("text_insets", Json.ofOption EdgeInsets.toJson s.textInsets),
    ("y_offset", Json.ofOption UInt16.toJson s.yOffset),
    ("arrow_size", Json.ofOption CellSize.toJson s.arrowSize)]

/-- A span. -/
def SpanSpec.toJson (s : SpanSpec) : Json :=
  .object [("text", .text s.text), ("bold", .bool s.bold), ("italic", .bool s.italic),
    ("underline", .bool s.underline), ("color", Json.ofOption .text s.color)]

/-- The body of a bubble. -/
def ContentSpec.toJson : ContentSpec → Json
  | .text s => .object [("text", .text s)]
  | .rich spans => .object [("rich", .list (spans.map SpanSpec.toJson))]

/-- The area that a step points at. -/
def AnchorSpec.toJson : AnchorSpec → Json
  | .view id => .object [("view", .text id)]
  | .rect r => .object [("rect", r.toJson)]

/-- A layout rule. -/
def LayoutRule.toJson (r : LayoutRule) : Json :=
  .object [
    ("edge", .text (nameIn Definition.edgeNames r.edge)),
    ("relation", .text (nameIn Definition.relationNames r.relation)),
    ("reference", .text (nameIn Definition.edgeNames r.reference)),
    ("constant", .integer r.constant.toInt),
    ("priority", .text (nameIn Definition.priorityNames r.priority))]

/-- A step. -/
def StepSpec.toJson : StepSpec → Json
  | .standalone s => .object [
      ("kind", .text "standalone"),
      ("content", s.content.toJson),
      ("center_offset", Json.ofOption Offset.toJson s.centerOffset),
      ("layout", .list (s.layout.map LayoutRule.toJson)),
      ("needs_interaction", .bool s.needsInteraction),
      ("auto_advance_ms", Json.ofOption UInt64.toJson s.autoAdvanceMs)]
  | .highlighted s => .object [
      ("kind", .text "highlighted"),
      ("content", s.content.toJson),
      ("anchor", s.anchor.toJson),
      ("text_location", .text (nameIn Definition.locationNames s.textLocation)),
      ("needs_interaction", .bool s.needsInteraction),
      ("auto_advance_ms", Json.ofOption UInt64.toJson s.autoAdvanceMs)]

/-- A whole definition. -/
def Definition.toJson (d : Definition) : Json :=
  .object [
    ("id", .text d.id),
    ("title", Json.ofOption .text d.title),
    ("settings", d.settings.toJson),
    ("style", d.style.toJson),
    ("steps", .list (d.steps.map StepSpec.toJson))]

end GuidedTour
