import GuidedTour.Layout.Edge

/-!
# Authored walkthroughs

A definition describes a walkthrough as its author writes it: an identity, settings and a style that
override defaults, and the steps in order.

* `Definition` - a whole walkthrough.
* `StepSpec` - a bubble on its own, or one that points at an area of the screen.
-/

namespace GuidedTour

open Layout

/-- The veil over the screen behind the bubble. -/
structure DimSpec where
  color : Option String
  alpha : Option Float32
  deriving Inhabited

/-- How the screen behind the walkthrough is treated. -/
inductive PresentationSpec where
  | dimAndHighlight (dim : DimSpec)
  | dim (dim : DimSpec)
  | none
  deriving Inhabited

/-- Overrides of the settings; an absent field keeps its default. -/
structure SettingsSpec where
  stepTransitionMs : Option UInt64 := none
  highlightingOffset : Option Offset := none
  automaticDelayMs : Option UInt64 := none
  minBubbleHorizontalMargin : Option UInt16 := none
  preferredBubbleMaxWidth : Option UInt16 := none
  presentationMode : Option PresentationSpec := none
  dismissOnEscape : Option Bool := none
  deriving Inhabited

/-- A named bubble style. -/
inductive StylePreset where
  | default
  | white
  deriving DecidableEq, Inhabited

/-- Override of the bubble's shadow. -/
inductive ShadowSpec where
  | none
  | light
  | dark
  | custom (offset : Offset) (color : String) (opacity : Float32)
  deriving Inhabited

/-- A preset with overrides of single fields. -/
structure StyleSpec where
  preset : StylePreset := .default
  textColor : Option String := none
  backgroundColor : Option String := none
  shadow : Option ShadowSpec := none
  cornerRadius : Option UInt16 := none
  textInsets : Option EdgeInsets := none
  yOffset : Option UInt16 := none
  arrowSize : Option CellSize := none
  deriving Inhabited

/-- A styled run of rich text. A line feed inside the text starts a new line. -/
structure SpanSpec where
  text : String := ""
  bold : Bool := false
  italic : Bool := false
  underline : Bool := false
  color : Option String := none
  deriving DecidableEq, Inhabited

/-- The body of a bubble. -/
inductive ContentSpec where
  | text (s : String)
  | rich (spans : List SpanSpec)
  deriving DecidableEq, Inhabited

/-- `bubble.edge relation container.reference + constant`. -/
structure LayoutRule where
  edge : Edge
  relation : Relation
  reference : Edge
  constant : Int32
  priority : Priority
  deriving DecidableEq, Inhabited

/-- The area a highlighted step points at: a registered view, or a rectangle in the container. -/
inductive AnchorSpec where
  | view (id : String)
  | rect (r : CellRect)
  deriving DecidableEq, Inhabited

/-- A bubble that is not attached to an area. -/
structure StandaloneSpec where
  content : ContentSpec
  centerOffset : Option Offset
  layout : List LayoutRule
  needsInteraction : Bool
  autoAdvanceMs : Option UInt64
  deriving DecidableEq, Inhabited

/-- A bubble that points at an area. -/
structure HighlightedSpec where
  content : ContentSpec
  anchor : AnchorSpec
  textLocation : TextLocation
  needsInteraction : Bool
  autoAdvanceMs : Option UInt64
  deriving DecidableEq, Inhabited

/-- One authored step. -/
inductive StepSpec where
  | standalone (s : StandaloneSpec)
  | highlighted (s : HighlightedSpec)
  deriving DecidableEq, Inhabited

namespace StepSpec

/-- The body of the step's bubble. -/
def content : StepSpec → ContentSpec
  | .standalone s => s.content
  | .highlighted s => s.content

/-- Whether only an interaction leaves the step. -/
def needsInteraction : StepSpec → Bool
  | .standalone s => s.needsInteraction
  | .highlighted s => s.needsInteraction

/-- The step's own delay before it is left by itself. -/
def autoAdvanceMs : StepSpec → Option UInt64
  | .standalone s => s.autoAdvanceMs
  | .highlighted s => s.autoAdvanceMs

end StepSpec

/-- A whole authored walkthrough. -/
structure Definition where
  id : String
  title : Option String := none
  settings : SettingsSpec := {}
  style : StyleSpec := {}
  steps : List StepSpec := []
  deriving Inhabited

end GuidedTour
