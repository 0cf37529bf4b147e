import GuidedTour.Overlay.Hole
import GuidedTour.Input
import GuidedTour.Screen.Blend

/-!
# The veil over the screen

A veil darkens everything but a hole. It fades in after it was attached, its hole moves with the steps,
and it takes every mouse event over it; a left click becomes a tap on the background.

* `Veil.draw` - darkens the cells outside the hole.
* `Veil.isTapped` - whether a mouse event is a tap on the background.
-/

namespace GuidedTour.Overlay

open Motion Screen

/-- How long a veil fades in. -/
def fadeIn : Nanos := millis 300

/-- A veil. -/
structure Veil where
  color    : Color
  alpha    : Float32
  attached : Nanos
  hole     : Option (Tween Hole) := none
  /-- Where it was drawn last. -/
  lastArea : Option Rect := none

namespace Veil

/-- A veil attached at a reading of the clock, without a hole. -/
def attach (color : Color) (alpha : Float32) (now : Nanos) : Veil :=
  let alpha : Float32 := if alpha < 0 then 0 else if 1 < alpha then 1 else alpha
  { color := color, alpha := alpha, attached := now }

/-- The veil's strength, which grows while it fades in. -/
def opacity (v : Veil) (now : Nanos) : Float32 :=
  let fade := seconds (now - v.attached) / seconds fadeIn
  v.alpha * (if fade < 1 then fade else 1)

/-- Whether the veil still fades in. -/
def isFading (v : Veil) (now : Nanos) : Bool := now - v.attached < fadeIn

/-- The hole at a reading of the clock. -/
def holeAt (v : Veil) (now : Nanos) : Option Hole := v.hole.map (·.valueAt now)

/-- Where the hole is going. -/
def targetHole (v : Veil) : Option Hole := v.hole.map (·.target)

/-- Whether a later frame would look different. -/
def isAnimating (v : Veil) (now : Nanos) : Bool :=
  v.isFading now || v.hole.any (·.isRunning now)

/-- Puts the hole in place at once. -/
def settleHole (v : Veil) (hole : Hole) (now : Nanos) : Veil := { v with hole := some (.settled hole now) }

/-- Moves the hole: along a course if one is given, otherwise only its destination changes. -/
def moveHole (v : Veil) (target : Hole) (now : Nanos) (course : Option (Nanos × Nanos)) : Veil :=
  { v with hole := some (Tween.send v.hole target now course) }

/-- The hole that is left out when the veil is drawn over an area. -/
def drawnHole (v : Veil) (area : Rect) (now : Nanos) : Hole :=
  (v.holeAt now).getD (Hole.covering area).closed

/-- Darkens the cells of an area outside the hole. -/
def draw (v : Veil) (area : Rect) (b : Buffer) (now : Nanos) : Veil × Buffer :=
  let alpha := v.opacity now
  let dimmed := (strips area (v.drawnHole area now).bounds).foldl
    (fun b r => b.mapRect r fun _ _ c => c.dim v.color alpha) b
  ({ v with lastArea := some area }, dimmed)

/-- Whether a mouse event is a tap on the background: a left button that goes down over the veil. -/
def isTapped (v : Veil) (e : MouseEvent) : Bool :=
  e.kind = .down .left && v.lastArea.all (·.contains e.position)

end Veil

end GuidedTour.Overlay
