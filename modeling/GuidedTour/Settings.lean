import GuidedTour.Geometry
import GuidedTour.Screen.Style

/-!
# Walkthrough settings

How fast a walkthrough moves, whether it advances by itself, how the screen behind it is treated, and how
wide its bubbles may be. Times are in nanoseconds.
-/

namespace GuidedTour

open Screen

/-- A span of time, or a reading of a clock, in nanoseconds. -/
abbrev Nanos := Nat

/-- Milliseconds as nanoseconds. -/
def millis (n : Nat) : Nanos := n * 1000000

/-- How the screen behind a walkthrough is presented: veiled with a hole around the highlighted area,
veiled throughout, or left alone. -/
inductive PresentationMode where
  | dimAndHighlight (color : Color) (alpha : Float32)
  | dim (color : Color) (alpha : Float32)
  | none
  deriving Inhabited

/-- The default strength of the veil. -/
def defaultDimAlpha : Float32 := 0.7

namespace PresentationMode

/-- The veil's color and strength, where there is one. -/
def dimming : PresentationMode → Option (Color × Float32)
  | .dimAndHighlight color alpha | .dim color alpha => some (color, alpha)
  | .none => Option.none

/-- The name of a mode. -/
def name : PresentationMode → String
  | .dimAndHighlight _ _ => "dim_and_highlight"
  | .dim _ _ => "dim"
  | .none => "none"

/-- Whether the highlighted area is left out of the veil. -/
def highlights : PresentationMode → Bool
  | .dimAndHighlight _ _ => true
  | _ => false

end PresentationMode

/-- The settings of one walkthrough. -/
structure Settings where
  /-- Duration of the move from one step to the next. -/
  stepTransition : Nanos := millis 300
  /-- Added to the highlighted area's width and height. -/
  highlightingOffset : CellSize := ⟨2, 2⟩
  /-- Delay after which a step is left by itself. -/
  automaticDelay : Option Nanos := none
  /-- Columns between a bubble and the container's sides. -/
  minBubbleHorizontalMargin : UInt16 := 1
  /-- Greatest width of a bubble's text. -/
  preferredBubbleMaxWidth : Option UInt16 := some 40
  presentationMode : PresentationMode := .dimAndHighlight (.rgb 0 0 0) defaultDimAlpha
  /-- Whether the escape key ends the walkthrough. -/
  dismissOnEscape : Bool := true
  deriving Inhabited

end GuidedTour
