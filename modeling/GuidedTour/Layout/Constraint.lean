import GuidedTour.Layout.Edge
import GuidedTour.Layout.Anchors

/-!
# Placing an item by constraints

A constraint relates one edge of the item to a reference value plus a constant. Each axis is solved on
its own: required inequalities form an interval and a required equality pins the item, clamped into it;
otherwise low inequalities narrow the interval while it stays inhabited, and the first low equality is
the preferred place, clamped into what is left.

* `solve` - the bounds of an item under a list of constraints.
-/

namespace GuidedTour.Layout

/-- Why an item could not be placed. -/
inductive PlacementError where
  | unresolvedAnchor (id : String)
  | bubbleNotPlaced
  deriving DecidableEq

/-- The wording of a placement error. -/
def PlacementError.message : PlacementError → String
  | .unresolvedAnchor id => "anchor view '" ++ id ++ "' is not registered on screen"
  | .bubbleNotPlaced => "constraint references the bubble before the bubble was placed"

/-- What a constraint is measured from. -/
inductive Reference where
  | container (edge : Edge)
  | view (id : String) (edge : Edge)
  | bubble (edge : Edge)
  | absolute
  deriving DecidableEq

/-- `item.edge relation reference + constant`, at a priority. -/
structure Constraint where
  edge      : Edge
  relation  : Relation
  reference : Reference
  constant  : Int32
  priority  : Priority
  deriving DecidableEq

namespace Constraint

/-- A required equality. -/
def equal (edge : Edge) (reference : Reference) (constant : Int32) : Constraint :=
  ⟨edge, .equal, reference, constant, .required⟩

/-- A required lower limit. -/
def atLeast (edge : Edge) (reference : Reference) (constant : Int32) : Constraint :=
  ⟨edge, .greaterOrEqual, reference, constant, .required⟩

/-- A required upper limit. -/
def atMost (edge : Edge) (reference : Reference) (constant : Int32) : Constraint :=
  ⟨edge, .lessOrEqual, reference, constant, .required⟩

/-- The same constraint at low priority. -/
def low (c : Constraint) : Constraint := { c with priority := .low }

/-- The axis that a constraint speaks about. -/
def axis (c : Constraint) : Axis := c.edge.axis

end Constraint

/-- The geometry that references are resolved against. -/
structure Context where
  container : Rect
  anchors   : Anchors
  bubble    : Option Bounds
  deriving Inhabited

/-- A context before a bubble was placed. -/
def Context.of (container : Rect) (anchors : Anchors) : Context := ⟨container, anchors, none⟩

/-- The current value of a reference. -/
def Context.resolve (ctx : Context) : Reference → Except PlacementError Int32
  | .container edge => .ok ((Bounds.ofRect ctx.container).edge edge)
  | .view id edge =>
    match ctx.anchors.resolve id with
    | some frame => .ok ((Bounds.ofRect frame).edge edge)
    | none => .error (.unresolvedAnchor id)
  | .bubble edge =>
    match ctx.bubble with
    | some b => .ok (b.edge edge)
    | none => .error .bubbleNotPlaced
  | .absolute => .ok 0

/-- The origin at which an item of the given extent has `edge` at `value`. -/
def originFor (edge : Edge) (value : Int32) (extent : UInt16) : Int32 :=
  match edge with
  | .left | .top => value
  | .right | .bottom => saturate (value.toInt - extent.toNat)
  | .centerX | .centerY => saturate (value.toInt - (extent.toNat / 2 : Nat))

/-- An origin asked for by a constraint. -/
structure Request where
  relation : Relation
  priority : Priority
  origin   : Int32
  deriving DecidableEq

/-- The origin that a constraint asks for. -/
def Context.request (ctx : Context) (extent : UInt16) (c : Constraint) : Except PlacementError Request := do
  let value ← ctx.resolve c.reference
  return ⟨c.relation, c.priority, originFor c.edge (saturate (value.toInt + c.constant.toInt)) extent⟩

/-- An interval of origins; either end may be open. -/
structure Span where
  lower : Option Int32
  upper : Option Int32
  deriving DecidableEq

namespace Span

/-- Raises the lower end to at least `origin`. -/
def raise (s : Span) (origin : Int32) : Span :=
  { s with lower := some (match s.lower with | none => origin | some l => max l origin) }

/-- Brings the upper end down to at most `origin`. -/
def cap (s : Span) (origin : Int32) : Span :=
  { s with upper := some (match s.upper with | none => origin | some u => min u origin) }

/-- The origin moved up to the lower end, then down to the upper end. -/
def clamp (s : Span) (origin : Int32) : Int32 :=
  let v := match s.lower with | none => origin | some l => max origin l
  match s.upper with | none => v | some u => min v u

/-- Narrows the interval by a required inequality. -/
def require (s : Span) (r : Request) : Span :=
  match r.priority, r.relation with
  | .required, .greaterOrEqual => s.raise r.origin
  | .required, .lessOrEqual => s.cap r.origin
  | _, _ => s

/-- The interval of the required inequalities. -/
def ofRequired (requests : List Request) : Span := requests.foldl require ⟨none, none⟩

/-- Narrows the interval by a low inequality if it stays inhabited. -/
def prefer (s : Span) (r : Request) : Span :=
  match r.priority, r.relation with
  | .low, .greaterOrEqual => if s.upper.all (r.origin ≤ ·) then s.raise r.origin else s
  | .low, .lessOrEqual => if s.lower.all (· ≤ r.origin) then s.cap r.origin else s
  | _, _ => s

/-- Narrows the interval by the low inequalities, in order, while it stays inhabited. -/
def narrow (s : Span) (requests : List Request) : Span := requests.foldl prefer s

end Span

/-- The first equality at a priority. -/
def firstEqual (priority : Priority) (requests : List Request) : Option Int32 :=
  (requests.find? fun r => r.priority = priority && r.relation = .equal).map (·.origin)

/-- The origin that a list of requests leads to. -/
def settle (requests : List Request) : Int32 :=
  let required := Span.ofRequired requests
  match required.lower, required.upper with
  | some low, some high =>
    if high < low then low else place required
  | _, _ => place required
where
  /-- The place inside an interval that the required inequalities leave. -/
  place (required : Span) : Int32 :=
    match firstEqual .required requests with
    | some pinned => required.clamp pinned
    | none =>
      let span := required.narrow requests
      match firstEqual .low requests with
      | some preferred => span.clamp preferred
      | none => ((span.lower <|> span.upper).getD 0)

/-- The origin of an item on one axis. -/
def solveAxis (constraints : List Constraint) (axis : Axis) (extent : UInt16) (ctx : Context) :
    Except PlacementError Int32 := do
  let requests ← (constraints.filter (·.axis = axis)).mapM (ctx.request extent)
  return settle requests

/-- The bounds of an item of the given size under a list of constraints. -/
def solve (constraints : List Constraint) (size : CellSize) (ctx : Context) :
    Except PlacementError Bounds := do
  let x ← solveAxis constraints .horizontal size.width ctx
  let y ← solveAxis constraints .vertical size.height ctx
  return ⟨x, y, size.width, size.height⟩

end GuidedTour.Layout
