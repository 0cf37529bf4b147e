import GuidedTour.Bubble.Drawing
import GuidedTour.Motion.Tween

/-!
# Speech bubbles

A bubble keeps the constraints of the step it shows and solves them again in every frame, so it follows
what it points at. A new step starts a move from wherever the bubble is.

* `View.layout` - places the bubble for a step.
* `View.draw` - draws it with its content.
-/

namespace GuidedTour.Bubble

open Screen Layout Motion

/-- Where an arrow is and where it points. -/
structure ArrowLayout where
  bounds    : Bounds
  direction : ArrowDirection
  deriving DecidableEq

/-- Where a bubble and its arrow are going. -/
structure BubbleLayout where
  bubble : Bounds
  arrow  : Option ArrowLayout
  deriving DecidableEq

/-- A turn of the arrow that is due at a reading of the clock. -/
structure ArrowFlip where
  old  : ArrowDirection
  when : Nanos

/-- Where a bubble and its content were drawn. -/
structure Drawn where
  bubble  : Bounds
  content : Option Rect

/-- A speech bubble. -/
structure View where
  style          : BubbleStyle
  margin         : UInt16
  preferredWidth : Option UInt16
  transition     : Nanos
  constraints    : BubbleConstraints := ⟨[], none⟩
  /-- The constraints belong to an earlier step. -/
  needsConfigure : Bool := true
  moveStarted    : Option Nanos := none
  frame          : Option (Tween Bounds) := none
  arrow          : Option (Tween Bounds) := none
  direction      : Option ArrowDirection := none
  flip           : Option ArrowFlip := none
  visible        : Bool := false
  drawn          : Option Drawn := none

namespace View

/-- The bubble is to show another step: it moves there from `now` on. -/
def beginTransition (v : View) (now : Nanos) : View :=
  { v with needsConfigure := true, moveStarted := some now }

/-- The bounds of the bubble. -/
def frameAt (v : View) (now : Nanos) : Option Bounds := v.frame.map (·.valueAt now)

/-- The direction of the arrow. -/
def directionAt (v : View) (now : Nanos) : Option ArrowDirection :=
  match v.flip with
  | some f => if now < f.when then some f.old else v.direction
  | none => v.direction

/-- The arrow. -/
def arrowAt (v : View) (now : Nanos) : Option ArrowLayout :=
  match v.arrow, v.directionAt now with
  | some t, some d => some ⟨t.valueAt now, d⟩
  | _, _ => none

/-- Whether a later frame would look different. -/
def isAnimating (v : View) (now : Nanos) : Bool :=
  v.frame.any (·.isRunning now) || v.arrow.any (·.isRunning now) || v.flip.any (now < ·.when)

/-- The bubble and its arrow shrink into the bubble's centre. -/
def beginCollapse (v : View) (now duration : Nanos) : View :=
  match v.visible, v.frameAt now with
  | true, some frame =>
    let point : Bounds := ⟨frame.centerX, frame.centerY, 0, 0⟩
    let course := some (now, duration)
    { v with
      frame := some (Tween.send v.frame point now course)
      arrow := v.arrow.map fun a => Tween.send (some a) point now course
      flip := none }
  | _, _ => { v with visible := false }

/-- The size of the bubble around a content. -/
def bubbleSize (v : View) (content : Content) (container : Rect) : CellSize :=
  let insets := v.style.textInsets
  let available := container.width.toNat - (saturate16 (2 * v.margin.toNat)).toNat
  let room := available - insets.horizontal.toNat
  let textWidth := match v.preferredWidth with
    | some preferred => min preferred.toNat room
    | none => room
  let measured := content.measure (.ofNat textWidth)
  { width := .ofNat (min (min (measured.width.toNat + insets.horizontal.toNat) 65535) available)
    height := .ofNat (min (min (measured.height.toNat + insets.vertical.toNat) 65535) container.height.toNat) }

/-- The place that constraints lead to. -/
def place (v : View) (size : CellSize) (ctx : Context) : Except PlacementError BubbleLayout := do
  let bubble ← solve v.constraints.bubble size ctx
  match v.constraints.arrow with
  | none => return ⟨bubble, none⟩
  | some (constraints, direction) => do
    let bounds ← solve constraints v.style.arrowSize { ctx with bubble := some bubble }
    return ⟨bubble, some ⟨bounds, direction⟩⟩

/-- The very first bounds: an empty bubble above the container, from where the first step slides in. -/
def probe (v : View) (ctx : Context) : Except PlacementError Bounds :=
  let constraints := targetConstraints .container .above v.style v.margin
  solve constraints.bubble (v.bubbleSize (.plain "") ctx.container) ctx

/-- Sends the arrow to its place. A new arrow starts beside the bubble as it is. -/
def moveArrow (v : View) (current bubble : Bounds) (arrow : Option ArrowLayout) (now : Nanos)
    (course : Option (Nanos × Nanos)) : View :=
  match arrow with
  | none => { v with arrow := none, direction := none, flip := none }
  | some arrow =>
    let start := v.arrow.getD (.settled
      (arrow.bounds.moveBy (saturate (current.x.toInt - bubble.x.toInt))
        (saturate (current.y.toInt - bubble.y.toInt))) now)
    let flip := match v.directionAt now, course with
      | some previous, some (started, duration) =>
        if previous ≠ arrow.direction then some ⟨previous, started + duration / 2⟩ else v.flip
      | _, _ => v.flip
    { v with
      arrow := some (Tween.send (some start) arrow.bounds now course)
      direction := some arrow.direction
      flip := flip }

/-- Sends the bubble and its arrow to a place. -/
def sendTo (v : View) (layout : BubbleLayout) (now : Nanos) (course : Option (Nanos × Nanos)) : View :=
  let current := (v.frameAt now).getD layout.bubble
  let v := { v with frame := some (Tween.send v.frame layout.bubble now course) }
  v.moveArrow current layout.bubble layout.arrow now course

/-- Places the bubble for a step. After an error the view shows what it showed before, or nothing if the
step is new. -/
def layout (v : View) (step : Step) (ctx : Context) (now : Nanos) :
    View × Except PlacementError BubbleLayout :=
  let probed : Except PlacementError View := match v.frame with
    | some _ => .ok v
    | none => (v.probe ctx).map fun b => { v with frame := some (.settled b now) }
  match probed with
  | .error e => (v, .error e)
  | .ok v =>
    let v := if v.needsConfigure then { v with constraints := stepConstraints step v.style v.margin ctx } else v
    match v.place (v.bubbleSize step.content ctx.container) ctx with
    | .error e => ({ v with visible := v.visible && !v.needsConfigure }, .error e)
    | .ok layout =>
      let course := if v.needsConfigure then v.moveStarted.map fun s => (s, v.transition) else none
      ({ v.sendTo layout now course with needsConfigure := false, visible := true }, .ok layout)

/-- Draws the bubble with its content into an area. -/
def draw (v : View) (content : Content) (area : Rect) (b : Buffer) (now : Nanos) : View × Buffer :=
  match v.visible, v.frameAt now with
  | true, some bubble =>
    let b := match v.style.shadow with
      | some shadow => drawShadow b area bubble v.style shadow
      | none => b
    let b := drawBody b area bubble v.style
    let b := match v.arrowAt now with
      | some arrow => drawArrow b area arrow.bounds arrow.direction v.style.backgroundColor
      | none => b
    let contentArea := (insetBounds bubble v.style).clip area
    let b := match contentArea with
      | some r => content.draw r v.style b
      | none => b
    ({ v with drawn := some ⟨bubble, contentArea⟩ }, b)
  | _, _ => ({ v with drawn := none }, b)

/-- Whether the bubble as last drawn covers a position. -/
def contains (v : View) (p : Position) : Bool := v.drawn.any (·.bubble.contains p)

/-- Where the content was last drawn. -/
def contentArea (v : View) : Option Rect := v.drawn.bind (·.content)

end View

end GuidedTour.Bubble
