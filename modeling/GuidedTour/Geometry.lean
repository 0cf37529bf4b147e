/-!
# Cells, sizes and rectangles

A screen position has unsigned 16-bit coordinates; a layout position is a signed 32-bit one, because a
bubble may lie partly or wholly off the screen. Arithmetic on either saturates at the ends of its range.

* `Rect` - a rectangle on the screen; `Rect.of` keeps its far edges on the screen.
* `Bounds` - a rectangle with a signed origin, and `Bounds.clip`, its visible part.
* `toInt_saturate` - saturation is the nearest 32-bit integer.
-/

namespace GuidedTour

/-- The 32-bit integer nearest to `i`. -/
def saturate (i : Int) : Int32 := Int32.ofInt (max (-0x80000000) (min i 0x7FFFFFFF))

/-- Saturation is the nearest 32-bit integer. -/
theorem toInt_saturate (i : Int) : (saturate i).toInt = max (-0x80000000) (min i 0x7FFFFFFF) := by
  unfold saturate
  rw [Int32.toInt_ofInt]
  simp only [Int.bmod_def, Int32.size]
  omega

/-- The sum of sizes. -/
def totalOf (sizes : List Nat) : Nat := sizes.foldr (· + ·) 0

/-- The unsigned 16-bit number nearest to `n`. -/
def saturate16 (n : Nat) : UInt16 := UInt16.ofNat (min n 65535)

/-- Saturation of a count is the smaller of it and the greatest 16-bit number. -/
theorem toNat_saturate16 (n : Nat) : (saturate16 n).toNat = min n 65535 := by
  unfold saturate16
  rw [UInt16.toNat_ofNat']
  omega

/-- A signed offset in cells. -/
structure Offset where
  x : Int32
  y : Int32
  deriving DecidableEq, Inhabited

/-- No offset. -/
def Offset.zero : Offset := ⟨0, 0⟩

/-- Width and height in cells. -/
structure CellSize where
  width  : UInt16
  height : UInt16
  deriving DecidableEq, Inhabited

/-- Padding on the four sides of a content. -/
structure EdgeInsets where
  top    : UInt16
  left   : UInt16
  bottom : UInt16
  right  : UInt16
  deriving DecidableEq, Inhabited

namespace EdgeInsets

/-- The same padding on all sides. -/
def uniform (n : UInt16) : EdgeInsets := ⟨n, n, n, n⟩

/-- One padding above and below, another left and right. -/
def symmetric (vertical horizontal : UInt16) : EdgeInsets := ⟨vertical, horizontal, vertical, horizontal⟩

/-- The left and right padding together. -/
def horizontal (i : EdgeInsets) : UInt16 := saturate16 (i.left.toNat + i.right.toNat)

/-- The top and bottom padding together. -/
def vertical (i : EdgeInsets) : UInt16 := saturate16 (i.top.toNat + i.bottom.toNat)

end EdgeInsets

/-- A rectangle relative to a container's origin, as it is authored. -/
structure CellRect where
  x      : UInt16
  y      : UInt16
  width  : UInt16
  height : UInt16
  deriving DecidableEq, Inhabited

/-- A rectangle on the screen. -/
structure Rect where
  x      : UInt16
  y      : UInt16
  width  : UInt16
  height : UInt16
  deriving DecidableEq, Inhabited

/-- A position on the screen. -/
structure Position where
  x : UInt16
  y : UInt16
  deriving DecidableEq, Inhabited

namespace Rect

/-- A rectangle whose size is cut so that its far edges stay within 16 bits. -/
def of (x y width height : Nat) : Rect :=
  let x := min x 65535
  let y := min y 65535
  ⟨.ofNat x, .ofNat y, .ofNat (min width (65535 - x)), .ofNat (min height (65535 - y))⟩

/-- The same rectangle with its size cut to the screen. -/
def ofCells (r : CellRect) : Rect := of r.x.toNat r.y.toNat r.width.toNat r.height.toNat

/-- First column. -/
def left (r : Rect) : Nat := r.x.toNat

/-- First row. -/
def top (r : Rect) : Nat := r.y.toNat

/-- The column behind the last one. -/
def right (r : Rect) : Nat := min (r.x.toNat + r.width.toNat) 65535

/-- The row below the last one. -/
def bottom (r : Rect) : Nat := min (r.y.toNat + r.height.toNat) 65535

/-- No cell inside. -/
def isEmpty (r : Rect) : Bool := r.width == 0 || r.height == 0

/-- The common part of two rectangles; empty if they are apart. -/
def intersection (a b : Rect) : Rect :=
  let x1 := max a.left b.left
  let y1 := max a.top b.top
  let x2 := min a.right b.right
  let y2 := min a.bottom b.bottom
  ⟨.ofNat x1, .ofNat y1, .ofNat (x2 - x1), .ofNat (y2 - y1)⟩

/-- Whether a position lies inside. -/
def contains (r : Rect) (p : Position) : Bool :=
  r.left ≤ p.x.toNat && p.x.toNat < r.right && r.top ≤ p.y.toNat && p.y.toNat < r.bottom

end Rect

/-- A rectangle with a signed origin. It may lie partly or wholly outside the screen. -/
structure Bounds where
  x      : Int32
  y      : Int32
  width  : UInt16
  height : UInt16
  deriving DecidableEq, Inhabited

namespace Bounds

/-- The bounds of a rectangle on the screen. -/
def ofRect (r : Rect) : Bounds := ⟨.ofInt r.x.toNat, .ofInt r.y.toNat, r.width, r.height⟩

/-- First column. -/
def left (b : Bounds) : Int32 := b.x

/-- First row. -/
def top (b : Bounds) : Int32 := b.y

/-- The column behind the last one. -/
def right (b : Bounds) : Int32 := saturate (b.x.toInt + b.width.toNat)

/-- The row below the last one. -/
def bottom (b : Bounds) : Int32 := saturate (b.y.toInt + b.height.toNat)

/-- The middle column. -/
def centerX (b : Bounds) : Int32 := saturate (b.x.toInt + (b.width.toNat / 2 : Nat))

/-- The middle row. -/
def centerY (b : Bounds) : Int32 := saturate (b.y.toInt + (b.height.toNat / 2 : Nat))

/-- Width and height. -/
def size (b : Bounds) : CellSize := ⟨b.width, b.height⟩

/-- Whether a screen position lies inside. -/
def contains (b : Bounds) (p : Position) : Bool :=
  b.left.toInt ≤ p.x.toNat && (p.x.toNat : Int) < b.right.toInt &&
  b.top.toInt ≤ p.y.toNat && (p.y.toNat : Int) < b.bottom.toInt

/-- The same bounds moved by an offset. -/
def moveBy (b : Bounds) (dx dy : Int32) : Bounds :=
  { b with x := saturate (b.x.toInt + dx.toInt), y := saturate (b.y.toInt + dy.toInt) }

/-- The part of the box between four edges that lies inside `area`; the box ends before `right` and
`bottom`. -/
def clipEdges (left top right bottom : Int32) (area : Rect) : Option Rect :=
  let l := max left.toInt area.left
  let t := max top.toInt area.top
  let r := min right.toInt area.right
  let b := min bottom.toInt area.bottom
  if r ≤ l ∨ b ≤ t then none
  else some (Rect.of l.toNat t.toNat (r - l).toNat (b - t).toNat)

/-- The part of the bounds that lies inside `area`. -/
def clip (b : Bounds) (area : Rect) : Option Rect :=
  clipEdges b.left b.top b.right b.bottom area

end Bounds

end GuidedTour
