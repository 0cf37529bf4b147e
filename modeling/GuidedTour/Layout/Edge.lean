import GuidedTour.Geometry

/-!
# The vocabulary of layout constraints

Edges of a laid-out item, how they relate to a reference, how strongly, and on which side of a
highlighted area the text goes.
-/

namespace GuidedTour.Layout

/-- A layout axis. -/
inductive Axis where
  | horizontal
  | vertical
  deriving DecidableEq, Inhabited

/-- An edge or a centre line of a laid-out item. -/
inductive Edge where
  | left
  | right
  | centerX
  | top
  | bottom
  | centerY
  deriving DecidableEq, Inhabited

/-- The axis along which an edge is measured. -/
def Edge.axis : Edge → Axis
  | .left | .right | .centerX => .horizontal
  | .top | .bottom | .centerY => .vertical

/-- How a constrained edge relates to its reference value. -/
inductive Relation where
  | equal
  | greaterOrEqual
  | lessOrEqual
  deriving DecidableEq, Inhabited

/-- How strongly a constraint holds. A required one always wins over a low one. -/
inductive Priority where
  | low
  | required
  deriving DecidableEq, Inhabited

instance : Ord Priority where
  compare
    | .low, .required => .lt
    | .required, .low => .gt
    | _, _ => .eq

/-- The side of a highlighted area on which the text appears. -/
inductive TextLocation where
  | above
  | below
  deriving DecidableEq, Inhabited

end GuidedTour.Layout

/-- The coordinate of an edge of some bounds. -/
def GuidedTour.Bounds.edge (b : GuidedTour.Bounds) : GuidedTour.Layout.Edge → Int32
  | .left => b.left
  | .right => b.right
  | .centerX => b.centerX
  | .top => b.top
  | .bottom => b.bottom
  | .centerY => b.centerY
