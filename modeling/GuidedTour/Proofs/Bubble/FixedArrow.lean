import GuidedTour.Proofs.Bubble.Triangle
import GuidedTour.Proofs.Geometry.Clipping

/-!
# Arrows in fixed-width arithmetic

How many cells a row of an arrow has is a quotient of a product of two 16-bit numbers, and where they stand is counted
from the arrow's middle, which may be anywhere in 32 bits. An arrow that is drawn with such numbers asks first whether
anything of it is to be seen. If so, its bounds are near the screen and neither flat nor narrow, and from then on every
number fits, no divisor is zero and no range is crossed: the drawing never fails, and paints what the plain one does.

Main results:

* `arrowRow?_of` - the row of an arrow that is to be seen is computed without a fault.
* `drawArrow?_eq` - the drawing never fails, and is the plain one.
* `drawArrow_triangle` - any arrow is drawn without a fault, as a triangle, in the part of the area where it lies.
-/

namespace GuidedTour

open Screen Screen.Buffer Layout Bubble

/-! ## Drawing with fixed-width numbers -/

namespace Fixed

/-- How many cells of an arrow's row are painted; `row` counts from the tip. -/
def arrowSpan? (width height row : UInt16) : Option Int32 := do
  let rows ← uint16? (row.toNat + 1)
  let product ← uint32? (rows.toNat * width.toNat : Nat)
  let quotient ← ceilDiv? product (.ofNat height.toNat)
  clamp? quotient.toInt32 1 (.ofInt width.toNat)

/-- The row of the screen where an arrow's row is. -/
def arrowLine? (arrow : Bounds) (direction : ArrowDirection) (row : UInt16) : Option Int32 :=
  match direction with
  | .up => int32? (arrow.top.toInt + row.toNat)
  | .down => do
    let last ← int32? (arrow.bottom.toInt - 1)
    int32? (last.toInt - row.toNat)

/-- A row to be painted, from a column on and before another. -/
structure Row where
  start : Int32
  stop  : Int32
  line  : Int32

/-- What is painted of an arrow's row. -/
def arrowRow? (arrow : Bounds) (direction : ArrowDirection) (row : UInt16) : Option Row := do
  let span ← arrowSpan? arrow.width arrow.height row
  let start ← int32? (arrow.centerX.toInt - span.toInt.tdiv 2)
  let line ← arrowLine? arrow direction row
  let stop ← int32? (start.toInt + span.toInt)
  -- a slope is painted in the last column
  let _slope ← int32? (stop.toInt - 1)
  return ⟨start, stop, line⟩

/-- Paints a row of an arrow. -/
def paintRow (area : Rect) (direction : ArrowDirection) (color : Color) (b : Buffer) (r : Row) : Buffer :=
  let span := (r.stop.toInt - r.start.toInt).toNat
  (List.range span).foldl (fun b (column : Nat) =>
    paintCell b area (r.start.toInt + column) r.line.toInt (arrowSymbol direction span column) color) b

/-- Draws an arrow, if no number that is needed leaves its range. -/
def drawArrow? (b : Buffer) (area : Rect) (arrow : Bounds) (direction : ArrowDirection) (color : Color) :
    Option Buffer := do
  match ← clipEdges? arrow.left arrow.top arrow.right arrow.bottom area with
  | none => return b
  | some _ =>
    (List.range arrow.height.toNat).foldlM (fun b row =>
      (arrowRow? arrow direction (.ofNat row)).map (paintRow area direction color b)) b

/-! ## No fault -/

/-- The quotient that says how many cells are painted is no greater than the width. -/
theorem arrowSpan?_of {width height row : UInt16} (hWidth : 1 ≤ width.toNat) (hRow : row.toNat < height.toNat) :
    ∃ span, arrowSpan? width height row = some span ∧
      span.toInt = arrowSpan width.toNat height.toNat row.toNat := by
  have hWidthMax := width.toNat_lt
  have hHeightMax := height.toNat_lt
  have hProductMax : (row.toNat + 1) * width.toNat ≤ height.toNat * width.toNat := Nat.mul_le_mul_right _ hRow
  have hSquare : height.toNat * width.toNat ≤ 65535 * 65535 := Nat.mul_le_mul (by omega) (by omega)
  have hHeight : (UInt32.ofNat height.toNat).toNat = height.toNat :=
    UInt32.toNat_ofNat_of_lt' (Nat.lt_trans hHeightMax (by decide))
  -- the product is within the square of 16 bits, and the quotient within the width
  obtain ⟨rows, hRows, hRowsIs⟩ := uint16?_of (i := row.toNat + 1) (by omega) (by omega)
  have hRowsNat : rows.toNat = row.toNat + 1 := by omega
  obtain ⟨product, hProduct, hProductIs⟩ :=
    uint32?_of (i := (rows.toNat * width.toNat : Nat)) (by omega) (by rw [hRowsNat]; omega)
  have hProductNat : product.toNat = (row.toNat + 1) * width.toNat := by
    rw [hRowsNat] at hProductIs
    exact Int.ofNat_inj.mp hProductIs
  obtain ⟨quotient, hQuotient, hQuotientIs⟩ := ceilDiv?_of product (d := .ofNat height.toNat) (by omega)
  rw [hHeight, hProductNat] at hQuotientIs
  have hQuotientMax : quotient.toNat ≤ width.toNat := by
    rw [hQuotientIs]
    refine Nat.le_trans (Nat.div_le_div_right ?_) (Nat.le_of_eq (last_quotient (by omega) width.toNat))
    exact Nat.add_le_add_right hProductMax _
  have hRange : (1 : Int32).toInt ≤ (Int32.ofInt width.toNat).toInt := by
    rw [toInt_ofNat16, Int32.toInt_one]
    omega
  obtain ⟨span, hSpan, hSpanIs⟩ := clamp?_of quotient.toInt32 hRange
  rw [toInt_toInt32 (by omega), toInt_ofNat16, Int32.toInt_one] at hSpanIs
  refine ⟨span, ?_, ?_⟩
  · unfold arrowSpan?
    rw [hRows, Option.bind_eq_bind, Option.bind_some, hProduct, Option.bind_eq_bind, Option.bind_some, hQuotient,
      Option.bind_some]
    exact hSpan
  · rw [hSpanIs]
    unfold arrowSpan
    omega

section seen

variable {arrow : Bounds} {area : Rect}

theorem arrowLine?_of (hSeen : (arrow.clip area).isNone = false) (direction : ArrowDirection) {row : UInt16}
    (hRow : row.toNat < arrow.height.toNat) :
    ∃ line, arrowLine? arrow direction row = some line ∧ line.toInt = arrowLine arrow direction row.toNat := by
  obtain ⟨-, -, hTopLow, hTopHigh, hBottom⟩ := edges_of_clip hSeen
  have hHeightMax := arrow.height.toNat_lt
  have hLine := arrowLine_bounds hSeen direction hRow
  unfold arrowLine at hLine ⊢
  unfold arrowLine?
  cases direction with
  | up => exact int32?_of (by omega) (by omega)
  | down =>
    dsimp only at hLine ⊢
    obtain ⟨last, hLast, hLastIs⟩ := int32?_of (i := arrow.bottom.toInt - 1) (by omega) (by omega)
    rw [hLast, ← hLastIs]
    exact int32?_of (by omega) (by omega)

/-- The numbers of a row of an arrow that is to be seen. -/
theorem arrowRow?_of (hSeen : (arrow.clip area).isNone = false) (direction : ArrowDirection) {row : UInt16}
    (hRow : row.toNat < arrow.height.toNat) :
    ∃ r, arrowRow? arrow direction row = some r ∧
      let span := arrowSpan arrow.width.toNat arrow.height.toNat row.toNat
      r.start.toInt = arrowStart arrow span ∧ r.stop.toInt = r.start.toInt + span ∧
        r.line.toInt = arrowLine arrow direction row.toNat := by
  obtain ⟨⟨hWidth, hLeftLow, hLeftHigh, hRight⟩, -⟩ := edges_of_clip hSeen
  have hWidthMax := arrow.width.toNat_lt
  obtain ⟨hOne, hSpanMax⟩ := arrowSpan_bounds hWidth arrow.height.toNat row.toNat
  have hStartIn := arrowStart_bounds hSeen hSpanMax
  obtain ⟨span, hSpan, hSpanIs⟩ := arrowSpan?_of hWidth hRow
  obtain ⟨line, hLine, hLineIs⟩ := arrowLine?_of hSeen direction hRow
  have hHalf : arrow.centerX.toInt - span.toInt.tdiv 2 =
      arrowStart arrow (arrowSpan arrow.width.toNat arrow.height.toNat row.toNat) := by
    rw [hSpanIs]
    rfl
  -- all columns of the row lie between the sides of the arrow, which is near the screen
  obtain ⟨start, hStart, hStartIs⟩ := int32?_of (i := arrow.centerX.toInt - span.toInt.tdiv 2) (by omega) (by omega)
  obtain ⟨stop, hStop, hStopIs⟩ := int32?_of (i := start.toInt + span.toInt) (by omega) (by omega)
  obtain ⟨slope, hSlope, -⟩ := int32?_of (i := stop.toInt - 1) (by omega) (by omega)
  refine ⟨⟨start, stop, line⟩, ?_, hStartIs.trans hHalf, by rw [hStopIs, hSpanIs], hLineIs⟩
  unfold arrowRow?
  rw [hSpan, hLine]
  simp only [Option.bind_eq_bind, Option.bind_some, hStart, hStop, hSlope]
  rfl

/-- A row that is painted with its numbers is the row of the loop. -/
theorem paintRow_eq {direction : ArrowDirection} {row : Nat} {r : Row}
    (hStart : r.start.toInt = arrowStart arrow (arrowSpan arrow.width.toNat arrow.height.toNat row))
    (hStop : r.stop.toInt = r.start.toInt + arrowSpan arrow.width.toNat arrow.height.toNat row)
    (hLine : r.line.toInt = arrowLine arrow direction row) (color : Color) (b : Buffer) :
    paintRow area direction color b r = drawArrowRow area arrow direction color b row := by
  have hSpan : (r.stop.toInt - r.start.toInt).toNat = arrowSpan arrow.width.toNat arrow.height.toNat row := by omega
  unfold paintRow drawArrowRow
  dsimp only
  rw [hSpan, hStart, hLine]

end seen

/-- A loop of which no turn fails does not fail. -/
theorem foldlM_eq_some {α ι : Type} {step? : α → ι → Option α} {step : α → ι → α} {turns : List ι}
    (hStep : ∀ a, ∀ i ∈ turns, step? a i = some (step a i)) (a : α) :
    turns.foldlM step? a = some (turns.foldl step a) := by
  induction turns generalizing a with
  | nil => rfl
  | cons i rest ih =>
    rw [List.foldlM_cons, hStep a i List.mem_cons_self]
    exact ih (fun a j hj => hStep a j (List.mem_cons_of_mem i hj)) (step a i)

/-- The drawing never fails, and is the plain one. -/
theorem drawArrow?_eq (b : Buffer) (area : Rect) (arrow : Bounds) (direction : ArrowDirection) (color : Color) :
    drawArrow? b area arrow direction color = some (drawArrow b area arrow direction color) := by
  have hClip : clipEdges? arrow.left arrow.top arrow.right arrow.bottom area = some (arrow.clip area) :=
    clipEdges?_eq _ _ _ _ _
  unfold drawArrow? drawArrow
  rw [hClip]
  cases hVisible : arrow.clip area with
  | none => rfl
  | some visible =>
    have hSeen : (arrow.clip area).isNone = false := by rw [hVisible]; rfl
    -- the turns are counted by 16-bit numbers, so each row is one of them
    refine foldlM_eq_some (fun b row hRow => ?_) b
    have hBefore := List.mem_range.mp hRow
    have hRowIs : (UInt16.ofNat row).toNat = row :=
      UInt16.toNat_ofNat_of_lt' (Nat.lt_trans hBefore arrow.height.toNat_lt)
    have hRowIn : (UInt16.ofNat row).toNat < arrow.height.toNat := by rwa [hRowIs]
    obtain ⟨r, hFound, hStart, hStop, hLine⟩ := arrowRow?_of hSeen direction hRowIn
    rw [hRowIs] at hStart hStop hLine
    rw [hFound, Option.map_some, paintRow_eq hStart hStop hLine]

end Fixed

/-- Any arrow, wherever its bounds lie, is drawn without a fault: no number leaves its range, no divisor is zero and no
range is crossed. What it has on a plane is a triangle with its base beside the bubble, and of that the part is painted
that lies in the area and in the buffer. -/
theorem drawArrow_triangle (b : Buffer) (area : Rect) (arrow : Bounds) (direction : ArrowDirection) (color : Color) :
    Fixed.drawArrow? b area arrow direction color = some (drawArrow b area arrow direction color) ∧
      Triangle arrow direction ∧
      Repaints b (fun x y c => if area.Covers x y then painted color (arrowMark arrow direction x y) c else c)
        (drawArrow b area arrow direction color) :=
  ⟨Fixed.drawArrow?_eq b area arrow direction color, triangle arrow direction,
    drawArrow_repaints b area arrow direction color⟩

end GuidedTour
