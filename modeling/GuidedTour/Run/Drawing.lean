import GuidedTour.Run.Basic

/-!
# Drawing a run

The veil with its hole, and the step's bubble above it, against the frames of the views as the screen has
drawn them.

* `Run.draw` - draws a run over an area.
* `Run.holeTarget` - where the hole of the veil is going.
-/

namespace GuidedTour

open Layout Screen Overlay

namespace Run

/-- Whether a later frame would look different. -/
def isAnimating (r : Run) (now : Nanos) : Bool :=
  r.views.any fun v => v.bubble.isAnimating now || v.veil.any (·.isAnimating now)

/-- The hole around the area that a step highlights; otherwise the hole as it was, closed. -/
def holeTarget (settings : Settings) (step : Step) (ctx : Context) (previous : Option Hole) : Hole :=
  let highlighted : Option Bounds :=
    match step.kind with
    | .highlighted anchor _ =>
      if settings.presentationMode.highlights then
        match (Target.ofAnchor anchor).resolve ctx with
        | .ok bounds => some bounds
        | .error _ => none
      else none
    | .standalone _ => none
  match highlighted with
  | some bounds => .around bounds settings.highlightingOffset
  | none => (previous.getD (.covering ctx.container)).closed

/-- Draws the veil after its hole has set out for the step. -/
def drawVeil (veil : Veil) (settings : Settings) (step : Step) (ctx : Context) (move : Option Nanos)
    (b : Buffer) (now : Nanos) : Veil × Buffer :=
  let veil := match veil.targetHole with
    | none => veil.settleHole (.covering ctx.container) now
    | some _ => veil
  let target := holeTarget settings step ctx veil.targetHole
  let veil := veil.moveHole target now (move.map fun started => (started, settings.stepTransition))
  veil.draw ctx.container b now

/-- Places the bubble; a failure is reported once as long as it stays the same. -/
def placeBubble (v : RunViews) (step : Step) (ctx : Context) (now : Nanos) : RunViews × List Effect :=
  let (bubble, placed) := v.bubble.layout step ctx now
  match placed with
  | .ok _ => ({ v with bubble := bubble, lastError := none }, [])
  | .error e =>
    if v.lastError = some e then ({ v with bubble := bubble }, [])
    else ({ v with bubble := bubble, lastError := some e }, [.warn .unplacedStep])

/-- Draws the step that is shown. -/
def drawStep (v : RunViews) (settings : Settings) (step : Step) (ctx : Context) (b : Buffer) (now : Nanos) :
    RunViews × Buffer × List Effect :=
  let (v, effects) := placeBubble v step ctx now
  let (v, b) := match v.veil with
    | none => (v, b)
    | some veil =>
      let (veil, b) := drawVeil veil settings step ctx v.holeMove b now
      ({ v with veil := some veil, holeMove := none }, b)
  let (bubble, b) := v.bubble.draw step.content ctx.container b now
  let drawn := bubble.contentArea
  ({ v with bubble := bubble, contentArea := drawn <|> v.contentArea }, b, effects)

/-- Draws a run over an area. -/
def draw (r : Run) (area : Rect) (b : Buffer) (anchors : Anchors) (now : Nanos) : Run × Buffer × List Effect :=
  match r.views, r.step? with
  | some views, some step =>
    let (views, b, effects) := drawStep views r.settings step (.of area anchors) b now
    ({ r with views := some views }, b, effects)
  | _, _ => (r, b, [])

end Run

end GuidedTour
