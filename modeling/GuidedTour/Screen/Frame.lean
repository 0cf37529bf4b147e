import GuidedTour.Screen.Buffer

/-!
# Rounded frames

A frame one cell wide around a rectangle, with round corners.

* `frameSymbol?` - what the frame shows in a cell.
* `inside` - the rectangle within the frame.
-/

namespace GuidedTour.Screen

/-- What the frame of a rectangle shows in a cell, if the cell belongs to it. In a rectangle of one row or
column the corners above and on the left win. -/
def frameSymbol? (r : Rect) (x y : Nat) : Option String :=
  let onLeft := x = r.left
  let onRight := x + 1 = r.right
  let onTop := y = r.top
  let onBottom := y + 1 = r.bottom
  if onLeft ∧ onTop then some "╭"
  else if onLeft ∧ onBottom then some "╰"
  else if onRight ∧ onTop then some "╮"
  else if onRight ∧ onBottom then some "╯"
  else if onTop ∨ onBottom then some "─"
  else if onLeft ∨ onRight then some "│"
  else none

/-- Draws the frame of a rectangle. -/
def drawFrame (b : Buffer) (r : Rect) (s : Style) : Buffer :=
  let r := r.intersection b.area
  b.mapRect r fun x y c =>
    match frameSymbol? r x y with
    | some symbol => { c with symbol := symbol }.withStyle s
    | none => c

/-- The rectangle within the frame. -/
def inside (r : Rect) : Rect :=
  .of (min (r.left + 1) r.right) (min (r.top + 1) r.bottom) (r.width.toNat - 2) (r.height.toNat - 2)

end GuidedTour.Screen
