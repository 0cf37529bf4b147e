import GuidedTour.Bubble.Style
import GuidedTour.Layout.Placement
import GuidedTour.Screen.Blend

/-!
# Drawing a bubble

The shadow, the body and the arrow of a bubble. Each changes single cells of an area, from their position
alone.

* `isClippedCorner` - the corner cells that a rounded bubble leaves out.
* `arrowSpan` - how an arrow widens from its tip on.
-/

namespace GuidedTour.Bubble

open Screen Layout

/-- Changes the visible cells of some bounds, each from its column and row. -/
def mapBounds (b : Buffer) (area : Rect) (bounds : Bounds) (f : Nat → Nat → Cell → Cell) : Buffer :=
  match bounds.clip area with
  | none => b
  | some visible => b.mapRect visible f

/-- Whether a cell is a corner that a rounded bubble leaves out. Small bubbles have no round corners. -/
def isClippedCorner (bubble : Bounds) (radius : UInt16) (x y : Nat) : Bool :=
  if radius == 0 || bubble.width < 3 || bubble.height < 2 then false else
    let onSide := (x : Int) = bubble.left.toInt || (x : Int) = (saturate (bubble.right.toInt - 1)).toInt
    let onEnd := (y : Int) = bubble.top.toInt || (y : Int) = (saturate (bubble.bottom.toInt - 1)).toInt
    onSide && onEnd

/-- Whether a cell lies inside some bounds. -/
def covers (bounds : Bounds) (x y : Nat) : Bool :=
  bounds.left.toInt ≤ x && (x : Int) < bounds.right.toInt && bounds.top.toInt ≤ y && (y : Int) < bounds.bottom.toInt

/-- Draws the shadow of a bubble beside the bubble. -/
def drawShadow (b : Buffer) (area : Rect) (bubble : Bounds) (style : BubbleStyle) (shadow : ShadowStyle) :
    Buffer :=
  let cast := bubble.moveBy shadow.offset.x shadow.offset.y
  mapBounds b area cast fun x y c =>
    if covers bubble x y || isClippedCorner cast style.cornerRadius x y then c
    else c.shade shadow.color shadow.opacity

/-- Draws the body of a bubble. -/
def drawBody (b : Buffer) (area : Rect) (bubble : Bounds) (style : BubbleStyle) : Buffer :=
  mapBounds b area bubble fun x y c =>
    if isClippedCorner bubble style.cornerRadius x y then c
    else { symbol := " ", fg := style.textColor, bg := style.backgroundColor }

/-- How many cells of an arrow's row are painted; `row` counts from the tip. -/
def arrowSpan (width height row : Nat) : Nat := max 1 (min (((row + 1) * width + (height - 1)) / height) width)

/-- The column where the painted cells of an arrow's row begin. They are centred. -/
def arrowStart (arrow : Bounds) (span : Nat) : Int := arrow.centerX.toInt - (span / 2 : Nat)

/-- The row of the screen where an arrow's row is. -/
def arrowLine (arrow : Bounds) (direction : ArrowDirection) (row : Nat) : Int :=
  match direction with
  | .up => arrow.top.toInt + row
  | .down => arrow.bottom.toInt - 1 - row

/-- What an arrow shows in one of the `span` painted cells of a row. -/
def arrowSymbol (direction : ArrowDirection) (span column : Nat) : String :=
  let (tip, slopeLeft, slopeRight) := match direction with
    | .up => ("▲", "◢", "◣")
    | .down => ("▼", "◥", "◤")
  if span = 1 then tip
  else if 3 ≤ span ∧ column = 0 then slopeLeft
  else if 3 ≤ span ∧ column = span - 1 then slopeRight
  else "█"

/-- Paints a single cell, if it is visible. -/
def paintCell (b : Buffer) (area : Rect) (x y : Int) (symbol : String) (color : Color) : Buffer :=
  mapBounds b area ⟨.ofInt x, .ofInt y, 1, 1⟩ fun _ _ c => { c with symbol := symbol, fg := color }

/-- Paints a row of an arrow. -/
def drawArrowRow (area : Rect) (arrow : Bounds) (direction : ArrowDirection) (color : Color) (b : Buffer) (row : Nat) :
    Buffer :=
  let span := arrowSpan arrow.width.toNat arrow.height.toNat row
  (List.range span).foldl (fun b (column : Nat) =>
    paintCell b area (arrowStart arrow span + column) (arrowLine arrow direction row) (arrowSymbol direction span column)
      color) b

/-- Draws an arrow in a color, over whatever is behind it, from its tip on. -/
def drawArrow (b : Buffer) (area : Rect) (arrow : Bounds) (direction : ArrowDirection) (color : Color) : Buffer :=
  if (arrow.clip area).isNone then b
  else (List.range arrow.height.toNat).foldl (drawArrowRow area arrow direction color) b

/-- The bounds of a bubble's content. -/
def insetBounds (bubble : Bounds) (style : BubbleStyle) : Bounds :=
  let insets := style.textInsets
  { x := saturate (bubble.x.toInt + insets.left.toNat)
    y := saturate (bubble.y.toInt + insets.top.toNat)
    width := .ofNat (bubble.width.toNat - insets.horizontal.toNat)
    height := .ofNat (bubble.height.toNat - insets.vertical.toNat) }

end GuidedTour.Bubble
