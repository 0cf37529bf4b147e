import GuidedTour.Geometry

/-!
# Dividing a rectangle

Parts of wished sizes beside each other. Where they do not fit, they share what there is: evenly as long as
nobody gets more than the least wish, then the last ones are served first.

* `shares` - the sizes of the parts.
* `rowsOf`, `columnsOf` - the parts of a rectangle.
-/

namespace GuidedTour.Screen

/-- `num / den` rounded to the nearest natural number, a half going up. -/
def roundHalfUp (num den : Nat) : Nat := (2 * num + den) / (2 * den)

/-- Equal parts of a total: their borders are rounded, not their sizes. -/
def evenShares (total n : Nat) : List Nat :=
  (List.range n).map fun i => roundHalfUp (total * (i + 1)) n - roundHalfUp (total * i) n

/-- Serves wishes, given last one first, and leaves `least` for each of those that still wait. -/
def serve (least : Nat) : List Nat → (total : Nat) → List Nat
  | [], _ => []
  | [_], total => [total]
  | wish :: earlier, total =>
    let part := min wish (total - least * earlier.length)
    part :: serve least earlier (total - part)

/-- The sizes of parts with wished sizes. -/
def shares (wishes : List Nat) (total : Nat) : List Nat :=
  let least := wishes.foldl min total
  if totalOf wishes ≤ total then wishes
  else if total ≤ least * wishes.length then evenShares total wishes.length
  else (serve least wishes.reverse total).reverse

/-- The number of free cells before a part in the middle of a total. -/
def middle (size total : Nat) : Nat := (total - size + 1) / 2

/-- Parts of a rectangle from row `y` down. -/
def stack (r : Rect) : (y : Nat) → List Nat → List Rect
  | _, [] => []
  | y, h :: rest => .of r.left y r.width.toNat h :: stack r (y + h) rest

/-- Rows of wished heights, from the top of a rectangle. -/
def rowsOf (r : Rect) (wishes : List Nat) : List Rect := stack r r.top (shares wishes r.height.toNat)

/-- Rows of wished heights in the middle of a rectangle. -/
def middleRowsOf (r : Rect) (wishes : List Nat) : List Rect :=
  let heights := shares wishes r.height.toNat
  stack r (r.top + middle (totalOf heights) r.height.toNat) heights

/-- Parts of a rectangle from column `x` on. -/
def lineUp (r : Rect) : (x : Nat) → List Nat → List Rect
  | _, [] => []
  | x, w :: rest => .of x r.top w r.height.toNat :: lineUp r (x + w) rest

/-- Equal columns of a rectangle. -/
def columnsOf (r : Rect) (n : Nat) : List Rect := lineUp r r.left (evenShares r.width.toNat n)

/-- A column of a wished width in the middle of a rectangle. -/
def middleColumnOf (r : Rect) (wish : Nat) : Rect :=
  let w := min wish r.width.toNat
  .of (r.left + middle w r.width.toNat) r.top w r.height.toNat

/-- Two columns of a wished width; what is left over stands around them, half as much outside as between. -/
def spacedColumnsOf (r : Rect) (wish : Nat) : Rect × Rect :=
  let total := r.width.toNat
  if total < 2 * wish then
    let first := roundHalfUp total 2
    (.of r.left r.top first r.height.toNat, .of (r.left + first) r.top (total - first) r.height.toNat)
  else
    let free := total - 2 * wish
    (.of (r.left + roundHalfUp free 4) r.top wish r.height.toNat,
     .of (r.left + wish + roundHalfUp (3 * free) 4) r.top wish r.height.toNat)

end GuidedTour.Screen
