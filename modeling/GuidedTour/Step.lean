import GuidedTour.Content
import GuidedTour.Layout.Constraint
import GuidedTour.Settings

/-!
# Steps of a walkthrough

A step is a bubble on its own or a bubble that points at an area of the screen. A bubble on its own is
placed in exactly one way.
-/

namespace GuidedTour

open Layout

/-- Where a bubble on its own goes: constraints that depend on the layout, or an offset of its centre from
the container's centre. -/
inductive Placement where
  | layout (constraints : Context → List Constraint)
  | centerOffset (offset : Offset)

/-- The area that a step points at: a registered view, or a rectangle in the container. -/
inductive Anchor where
  | view (id : String)
  | rect (r : Rect)
  deriving DecidableEq, Inhabited

/-- How a step is placed. -/
inductive StepKind where
  | standalone (placement : Placement)
  | highlighted (anchor : Anchor) (location : TextLocation)

/-- One step. -/
structure Step where
  content : Content
  kind : StepKind
  /-- Only an interaction leaves the step. -/
  needsInteraction : Bool := false
  /-- Overrides the walkthrough's automatic delay. -/
  autoAdvance : Option Nanos := none

instance : Inhabited Step := ⟨⟨default, .standalone (.centerOffset .zero), false, none⟩⟩

namespace Step

/-- A bubble on its own, its centre moved from the container's. -/
def centered (content : Content) (offset : Offset) : Step :=
  { content := content, kind := .standalone (.centerOffset offset) }

/-- A bubble on its own under constraints. -/
def withLayout (content : Content) (constraints : Context → List Constraint) : Step :=
  { content := content, kind := .standalone (.layout constraints) }

/-- A bubble that points at an area below it. -/
def above (anchor : Anchor) (content : Content) : Step :=
  { content := content, kind := .highlighted anchor .above }

/-- A bubble that points at an area above it. -/
def below (anchor : Anchor) (content : Content) : Step :=
  { content := content, kind := .highlighted anchor .below }

/-- Whether the bubble stands on its own. -/
def isStandalone (s : Step) : Bool :=
  match s.kind with
  | .standalone _ => true
  | .highlighted _ _ => false

end Step

end GuidedTour
