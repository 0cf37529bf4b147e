import GuidedTour.Step

/-!
# Where bubbles and their arrows go

The constraints of a step: centred on its target and stacked above or below it, or centred in the
container, and always away from the container's sides; the arrow sits on the bubble's edge and aims at the
middle of the target.

* `stepConstraints` - the constraints of a step's bubble and arrow.
-/

namespace GuidedTour.Layout

/-- Which way an arrow points. -/
inductive ArrowDirection where
  | up
  | down
  deriving DecidableEq, Inhabited

/-- Text above an area needs an arrow that points down at it. -/
def ArrowDirection.ofLocation : TextLocation → ArrowDirection
  | .above => .down
  | .below => .up

/-- What a bubble is attached to. -/
inductive Target where
  | container
  | view (id : String)
  | rect (r : Rect)
  deriving DecidableEq

namespace Target

/-- The target that an anchor means. -/
def ofAnchor : Anchor → Target
  | .view id => .view id
  | .rect r => .rect r

/-- An edge of the target as a reference and a constant. -/
def reference (t : Target) (edge : Edge) : Reference × Int32 :=
  match t with
  | .container => (.container edge, 0)
  | .view id => (.view id edge, 0)
  | .rect r =>
    let start := match edge.axis with
      | .horizontal => Edge.left
      | .vertical => Edge.top
    (.container start, (Bounds.ofRect r).edge edge)

/-- The current bounds of the target. -/
def resolve (t : Target) (ctx : Context) : Except PlacementError Bounds :=
  match t with
  | .container => .ok (Bounds.ofRect ctx.container)
  | .view id =>
    match ctx.anchors.resolve id with
    | some frame => .ok (Bounds.ofRect frame)
    | none => .error (.unresolvedAnchor id)
  | .rect r =>
    .ok ((Bounds.ofRect r).moveBy (.ofInt ctx.container.x.toNat) (.ofInt ctx.container.y.toNat))

/-- An edge of the item lies at an edge of the target, moved by a constant. -/
def constraint (t : Target) (itemEdge targetEdge : Edge) (constant : Int32) : Constraint :=
  let (reference, offset) := t.reference targetEdge
  .equal itemEdge reference (saturate (offset.toInt + constant.toInt))

end Target

/-- The bubble stays away from the container's sides. -/
def marginConstraints (margin : UInt16) : List Constraint :=
  [.atLeast .left (.container .left) (.ofInt margin.toNat),
   .atMost .right (.container .right) (.ofInt (-(margin.toNat : Int)))]

/-- The bubble is centred on the target and stacked above or below it. -/
def highlightConstraints (target : Target) (location : TextLocation) (style : BubbleStyle) (margin : UInt16) :
    List Constraint :=
  let gap := style.highlightGap
  let vertical := match location with
    | .above => target.constraint .bottom .top (-gap)
    | .below => target.constraint .top .bottom gap
  (target.constraint .centerX .centerX 0).low :: vertical :: marginConstraints margin

/-- The bubble is centred in the container, moved by an offset. -/
def centerConstraints (offset : Offset) (margin : UInt16) : List Constraint :=
  (Constraint.equal .centerX (.container .centerX) offset.x).low ::
  (Constraint.equal .centerY (.container .centerY) offset.y).low ::
  marginConstraints margin

/-- The arrow sits on the bubble's near edge and aims at the middle of the target, but stays the corner
radius away from the bubble's sides. -/
def arrowConstraints (target : Target) (location : TextLocation) (style : BubbleStyle) : List Constraint :=
  let radius : Int := style.cornerRadius.toNat
  let vertical := match location with
    | .above => Constraint.equal .top (.bubble .bottom) 0
    | .below => Constraint.equal .bottom (.bubble .top) 0
  [vertical,
   (Constraint.atLeast .left (.bubble .left) (.ofInt radius)).low,
   (Constraint.atMost .right (.bubble .right) (.ofInt (-radius))).low,
   (target.constraint .centerX .centerX 0).low]

/-- The constraints of a bubble and, if it has one, of its arrow. -/
structure BubbleConstraints where
  bubble : List Constraint
  arrow  : Option (List Constraint × ArrowDirection)

/-- The constraints of a bubble that is attached to a target. -/
def targetConstraints (target : Target) (location : TextLocation) (style : BubbleStyle) (margin : UInt16) :
    BubbleConstraints :=
  { bubble := highlightConstraints target location style margin
    arrow := some (arrowConstraints target location style, .ofLocation location) }

/-- The constraints of a step's bubble. -/
def stepConstraints (step : Step) (style : BubbleStyle) (margin : UInt16) (ctx : Context) : BubbleConstraints :=
  match step.kind with
  | .standalone (.layout constraints) => ⟨constraints ctx, none⟩
  | .standalone (.centerOffset offset) => ⟨centerConstraints offset margin, none⟩
  | .highlighted anchor location => targetConstraints (.ofAnchor anchor) location style margin

end GuidedTour.Layout
