import GuidedTour.Motion.Tween

/-!
# Holes in the veil

The part of the screen that the veil leaves out, given by its centre and its size, and the strips of the
container around it.

* `Hole.around` - the hole around an area.
* `strips` - what remains of a container without a hole: at most four rectangles.
-/

namespace GuidedTour.Overlay

open Motion

/-- The part that the veil leaves out. -/
structure Hole where
  centerX : Int32
  centerY : Int32
  width   : UInt16
  height  : UInt16
  deriving DecidableEq, Inhabited

namespace Hole

/-- The hole around an area, grown by `padding` in width and height. -/
def around (target : Bounds) (padding : CellSize) : Hole :=
  { centerX := target.centerX
    centerY := target.centerY
    width := saturate16 (target.width.toNat + padding.width.toNat)
    height := saturate16 (target.height.toNat + padding.height.toNat) }

/-- The hole that leaves out a whole area. -/
def covering (area : Rect) : Hole := around (.ofRect area) ⟨0, 0⟩

/-- The hole with no height. -/
def closed (h : Hole) : Hole := { h with height := 0 }

/-- Whether the hole leaves out nothing. -/
def isClosed (h : Hole) : Bool := h.width == 0 || h.height == 0

/-- The bounds of the hole. -/
def bounds (h : Hole) : Bounds :=
  { x := saturate (h.centerX.toInt - (h.width.toNat / 2 : Nat))
    y := saturate (h.centerY.toInt - (h.height.toNat / 2 : Nat))
    width := h.width
    height := h.height }

instance : Interpolate Hole where
  between a b t :=
    { centerX := interpolateInt a.centerX b.centerX t
      centerY := interpolateInt a.centerY b.centerY t
      width := interpolateSize a.width b.width t
      height := interpolateSize a.height b.height t }

end Hole

/-- The reach of a strip, greater than any screen. -/
def stripLength : Int := 65535

/-- The parts of a container above, below, left and right of a hole, as far as they have cells. -/
def strips (container : Rect) (hole : Bounds) : List Rect :=
  let center := hole.centerX.toInt
  let farLeft := saturate (center - stripLength)
  let farRight := saturate (center + stripLength)
  [Bounds.clipEdges farLeft (saturate (hole.top.toInt - stripLength)) farRight hole.top container,
   Bounds.clipEdges farLeft hole.bottom farRight (saturate (hole.bottom.toInt + stripLength)) container,
   Bounds.clipEdges (saturate (hole.left.toInt - stripLength)) hole.top hole.left hole.bottom container,
   Bounds.clipEdges hole.right hole.top (saturate (hole.right.toInt + stripLength)) hole.bottom container
  ].filterMap id

end GuidedTour.Overlay
