import GuidedTour.Proofs.Bubble.Picture

/-!
# The triangle of an arrow

An arrow is painted cell by cell: for each row, counted from the tip, the columns between a start and a stop that are
computed from the arrow's middle. On a plane without edges the same cells are given by a rule for each of them: how far
its row is from the tip says how many columns are painted there, and the columns stand around the middle. The rule makes a
triangle of any bounds. On a screen the loops paint what the rule says, in the part that lies in the area.

Main results:

* `arrowSpan_mono`, `arrowSpan_last` - an arrow widens from its tip on, up to all of its columns.
* `triangle` - how the painted cells lie in the bounds.
* `drawArrow_repaints` - the loops paint the cells that the rule gives, as far as they are in the area.
-/

namespace GuidedTour.Bubble

open Screen Screen.Buffer Layout

/-! ## The rule -/

/-- Painted columns of a row: the first one, and how many there are. -/
structure Run where
  first : Int
  count : Nat

/-- The run has a column. -/
def Run.Has (r : Run) (x : Int) : Prop := r.first ≤ x ∧ x < r.first + r.count

instance (r : Run) (x : Int) : Decidable (r.Has x) := inferInstanceAs (Decidable (_ ∧ _))

/-- How far a row of the plane is from the tip of an arrow, in the direction of the bubble. -/
def tipDistance (arrow : Bounds) (direction : ArrowDirection) (y : Int) : Int :=
  match direction with
  | .up => y - arrow.y.toInt
  | .down => arrow.y.toInt + arrow.height.toNat - 1 - y

/-- What is painted of a row of an arrow. An arrow without a column has nothing to paint. -/
def arrowRun (arrow : Bounds) (direction : ArrowDirection) (y : Int) : Run :=
  let row := (tipDistance arrow direction y).toNat
  let count := min (arrowSpan arrow.width.toNat arrow.height.toNat row) arrow.width.toNat
  { first := arrow.x.toInt + (arrow.width.toNat / 2 : Nat) - (count / 2 : Nat), count }

/-- A row of the plane is one of the arrow's. -/
def HasRow (arrow : Bounds) (y : Int) : Prop := arrow.y.toInt ≤ y ∧ y < arrow.y.toInt + arrow.height.toNat

instance (arrow : Bounds) (y : Int) : Decidable (HasRow arrow y) := inferInstanceAs (Decidable (_ ∧ _))

/-- What an arrow shows in a cell of the plane. -/
def arrowMark (arrow : Bounds) (direction : ArrowDirection) (x y : Int) : Option String :=
  let run := arrowRun arrow direction y
  if HasRow arrow y ∧ run.Has x then some (arrowSymbol direction run.count (x - run.first).toNat) else none

/-- The row beside the bubble. -/
def baseRow (arrow : Bounds) (direction : ArrowDirection) : Int :=
  match direction with
  | .up => arrow.y.toInt + arrow.height.toNat - 1
  | .down => arrow.y.toInt

/-! ## How an arrow widens -/

theorem arrowSpan_mono {j k : Nat} (hFurther : j ≤ k) (width height : Nat) :
    arrowSpan width height j ≤ arrowSpan width height k := by
  have hProduct : (j + 1) * width ≤ (k + 1) * width := Nat.mul_le_mul_right _ (Nat.succ_le_succ hFurther)
  have hQuotient := Nat.div_le_div_right (c := height) (Nat.add_le_add_right hProduct (height - 1))
  unfold arrowSpan
  omega

/-- In the last row the quotient that is rounded up is the width itself. -/
theorem last_quotient {height : Nat} (hHeight : 0 < height) (width : Nat) :
    (height * width + (height - 1)) / height = width := by
  rw [Nat.mul_add_div hHeight, Nat.div_eq_of_lt (Nat.sub_one_lt_of_lt hHeight), Nat.add_zero]

/-- The last row has all columns. -/
theorem arrowSpan_last {width height row : Nat} (hWidth : 1 ≤ width) (hLast : row + 1 = height) :
    arrowSpan width height row = width := by
  unfold arrowSpan
  rw [hLast, last_quotient (by omega), Nat.min_self, Nat.max_eq_right hWidth]

/-! ## The triangle -/

/-- How the painted cells of an arrow lie in its bounds. -/
structure Triangle (arrow : Bounds) (direction : ArrowDirection) : Prop where
  /-- Rows outside the bounds are not painted. -/
  rows     : ∀ x y, ¬ HasRow arrow y → arrowMark arrow direction x y = none
  /-- Of a row a run of cells is painted, without a gap. -/
  run      : ∀ x y, HasRow arrow y →
    ((arrowMark arrow direction x y).isSome = true ↔ (arrowRun arrow direction y).Has x)
  /-- It lies between the sides, and has a cell unless there is no column. -/
  columns  : ∀ y, arrow.x.toInt ≤ (arrowRun arrow direction y).first ∧
    (arrowRun arrow direction y).first + (arrowRun arrow direction y).count ≤ arrow.x.toInt + arrow.width.toNat
  present  : ∀ y, 1 ≤ arrow.width.toNat → 1 ≤ (arrowRun arrow direction y).count
  /-- From the tip on no row is shorter than the one before. -/
  widening : ∀ y y', tipDistance arrow direction y ≤ tipDistance arrow direction y' →
    (arrowRun arrow direction y).count ≤ (arrowRun arrow direction y').count
  /-- What is left free on the two sides of a row differs by one cell at most. -/
  centred  : ∀ y, (((arrowRun arrow direction y).first - arrow.x.toInt) - (arrow.x.toInt + arrow.width.toNat -
    ((arrowRun arrow direction y).first + (arrowRun arrow direction y).count))).natAbs ≤ 1
  /-- The row beside the bubble is the last one, and is painted from side to side. -/
  base     : 1 ≤ arrow.height.toNat → HasRow arrow (baseRow arrow direction) ∧
    (∀ y, HasRow arrow y → tipDistance arrow direction y ≤ tipDistance arrow direction (baseRow arrow direction)) ∧
    ∀ x, arrow.x.toInt ≤ x → x < arrow.x.toInt + arrow.width.toNat →
      (arrowMark arrow direction x (baseRow arrow direction)).isSome = true

theorem arrowMark_isSome (arrow : Bounds) (direction : ArrowDirection) (x y : Int) :
    (arrowMark arrow direction x y).isSome = true ↔ HasRow arrow y ∧ (arrowRun arrow direction y).Has x := by
  unfold arrowMark
  dsimp only
  split <;> simp [*]

/-- Halves are cut off twice, of the width and of the painted part, and that is less than one cell on either side. -/
theorem arrowRun_columns (arrow : Bounds) (direction : ArrowDirection) (y : Int) :
    let run := arrowRun arrow direction y
    (arrow.x.toInt ≤ run.first ∧ run.first + run.count ≤ arrow.x.toInt + arrow.width.toNat) ∧
      ((run.first - arrow.x.toInt) - (arrow.x.toInt + arrow.width.toNat - (run.first + run.count))).natAbs ≤ 1 := by
  unfold arrowRun
  dsimp only
  have hCount := Nat.min_le_right (arrowSpan arrow.width.toNat arrow.height.toNat (tipDistance arrow direction y).toNat)
    arrow.width.toNat
  omega

/-- The distance of the row beside the bubble is that of the last row. -/
theorem tipDistance_baseRow (arrow : Bounds) (direction : ArrowDirection) :
    tipDistance arrow direction (baseRow arrow direction) = arrow.height.toNat - 1 := by
  cases direction <;> unfold tipDistance baseRow <;> dsimp only <;> omega

theorem hasRow_iff (arrow : Bounds) (direction : ArrowDirection) (y : Int) :
    HasRow arrow y ↔ 0 ≤ tipDistance arrow direction y ∧ tipDistance arrow direction y < arrow.height.toNat := by
  unfold HasRow tipDistance
  cases direction <;> dsimp only <;> omega

theorem triangle (arrow : Bounds) (direction : ArrowDirection) : Triangle arrow direction where
  rows := fun x y hRow => if_neg fun h => hRow h.1
  run := fun x y hRow => (arrowMark_isSome arrow direction x y).trans (and_iff_right hRow)
  columns := fun y => (arrowRun_columns arrow direction y).1
  present := by
    intro y hWidth
    have hSpan := (arrowSpan_bounds hWidth arrow.height.toNat (tipDistance arrow direction y).toNat).1
    exact Nat.le_min.mpr ⟨hSpan, hWidth⟩
  widening := by
    intro y y' hFurther
    have hSpan := arrowSpan_mono (Int.toNat_le_toNat hFurther) arrow.width.toNat arrow.height.toNat
    exact Nat.le_min.mpr ⟨Nat.le_trans (Nat.min_le_left _ _) hSpan, Nat.min_le_right _ _⟩
  centred := fun y => (arrowRun_columns arrow direction y).2
  base := by
    intro hHeight
    have hDistance := tipDistance_baseRow arrow direction
    -- it is one of the rows, and none is further from the tip
    have hBase : HasRow arrow (baseRow arrow direction) := by
      rw [hasRow_iff arrow direction, hDistance]
      omega
    refine ⟨hBase, fun y hRow => ?_, fun x hLeft hRight => ?_⟩
    · obtain ⟨-, hBefore⟩ := (hasRow_iff arrow direction y).mp hRow
      omega
    · -- all columns are painted, so the run begins at the left side
      have hLast : arrowSpan arrow.width.toNat arrow.height.toNat
          (tipDistance arrow direction (baseRow arrow direction)).toNat = arrow.width.toNat :=
        arrowSpan_last (by omega) (by omega)
      have hCount : (arrowRun arrow direction (baseRow arrow direction)).count = arrow.width.toNat := by
        unfold arrowRun
        dsimp only
        rw [hLast, Nat.min_self]
      obtain ⟨⟨hFirst, hEnd⟩, -⟩ := arrowRun_columns arrow direction (baseRow arrow direction)
      refine (arrowMark_isSome arrow direction x _).mpr ⟨hBase, ?_⟩
      unfold Run.Has
      omega

/-! ## The loops -/

/-- A cell with a symbol of an arrow, if there is one. -/
def painted (color : Color) (symbol : Option String) (c : Cell) : Cell :=
  symbol.elim c fun symbol => { c with symbol := symbol, fg := color }

section loops

variable {arrow : Bounds} {area : Rect} {b : Buffer}

/-- An arrow of which something is to be seen has its middle where the triangle has it. -/
theorem arrowStart_of_seen (hSeen : (arrow.clip area).isNone = false) (span : Nat) :
    arrowStart arrow span = arrow.x.toInt + (arrow.width.toNat / 2 : Nat) - (span / 2 : Nat) := by
  obtain ⟨⟨-, hLow, hHigh, -⟩, -⟩ := edges_of_clip hSeen
  have hExtent := arrow.width.toNat_lt
  have hCenter : arrow.centerX.toInt =
      max (-0x80000000) (min (arrow.left.toInt + (arrow.width.toNat / 2 : Nat)) 0x7FFFFFFF) := toInt_saturate _
  have hLeft : arrow.left.toInt = arrow.x.toInt := rfl
  unfold arrowStart
  omega

/-- Its rows are as far from the tip as they are counted. -/
theorem eq_arrowLine_iff (hSeen : (arrow.clip area).isNone = false) (direction : ArrowDirection) (row : Nat) (y : Int) :
    y = arrowLine arrow direction row ↔ tipDistance arrow direction y = row := by
  obtain ⟨-, -, -, -, hBottom⟩ := edges_of_clip hSeen
  have hTop : arrow.top.toInt = arrow.y.toInt := rfl
  unfold arrowLine tipDistance
  cases direction <;> dsimp only <;> omega

/-- What the triangle has in a row, in the numbers of the loop. -/
theorem arrowMark_of_seen (hSeen : (arrow.clip area).isNone = false) {direction : ArrowDirection} {row : Nat}
    (hRow : row < arrow.height.toNat) {y : Int} (hDistance : tipDistance arrow direction y = row) (x : Int) :
    let span := arrowSpan arrow.width.toNat arrow.height.toNat row
    arrowMark arrow direction x y =
      if arrowStart arrow span ≤ x ∧ x < arrowStart arrow span + span
      then some (arrowSymbol direction span (x - arrowStart arrow span).toNat) else none := by
  dsimp only
  obtain ⟨⟨hWidth, -⟩, -⟩ := edges_of_clip hSeen
  obtain ⟨-, hSpan⟩ := arrowSpan_bounds hWidth arrow.height.toNat row
  have hHasRow : HasRow arrow y := by
    rw [hasRow_iff arrow direction, hDistance]
    omega
  have hRun : arrowRun arrow direction y =
      ⟨arrowStart arrow (arrowSpan arrow.width.toNat arrow.height.toNat row),
        arrowSpan arrow.width.toNat arrow.height.toNat row⟩ := by
    unfold arrowRun
    dsimp only
    rw [hDistance, Int.toNat_natCast, Nat.min_eq_left hSpan, arrowStart_of_seen hSeen]
  unfold arrowMark
  rw [hRun]
  simp only [hHasRow, true_and]
  rfl

/-- A row of the loop is a row of the triangle. -/
theorem drawArrowRow_repaints (hSeen : (arrow.clip area).isNone = false) (direction : ArrowDirection) (color : Color)
    {row : Nat} (hRow : row < arrow.height.toNat) :
    Repaints b (fun x y c => if area.Covers x y ∧ tipDistance arrow direction y = row
        then painted color (arrowMark arrow direction x y) c else c)
      (drawArrowRow area arrow direction color b row) := by
  obtain ⟨⟨hWidth, hLeftLow, hLeftHigh, hRight⟩, -, hTopLow, hTopHigh, hBottom⟩ := edges_of_clip hSeen
  have hExtentX := arrow.width.toNat_lt
  have hExtentY := arrow.height.toNat_lt
  obtain ⟨-, hSpan⟩ := arrowSpan_bounds hWidth arrow.height.toNat row
  have hStart := arrowStart_bounds hSeen hSpan
  have hLine := arrowLine_bounds hSeen direction hRow
  unfold drawArrowRow
  dsimp only
  generalize hCount : arrowSpan arrow.width.toNat arrow.height.toNat row = span at *
  -- every turn of the loop paints one cell, in the column that it counts
  have hTurns : ∀ b : Buffer, ∀ column < span,
      Repaints b (fun x y c =>
          if area.Covers x y ∧ (x : Int) = arrowStart arrow span + column ∧ (y : Int) = arrowLine arrow direction row
          then painted color (some (arrowSymbol direction span column)) c else c)
        (paintCell b area (arrowStart arrow span + column) (arrowLine arrow direction row)
          (arrowSymbol direction span column) color) :=
    fun b column hColumn => paintCell_repaints (by omega) (by omega) _ _
  refine (Repaints.foldl_range (fun x _ => ((x : Int) - arrowStart arrow span).toNat) ?_ hTurns b).congr ?_
  · rintro column x y ⟨-, hX, -⟩
    omega
  · intro x y _ _ c
    simp only [eq_arrowLine_iff hSeen]
    by_cases hHere : area.Covers x y ∧ tipDistance arrow direction y = row
    · obtain ⟨hCovers, hDistance⟩ := hHere
      have hTurn : (((x : Int) - arrowStart arrow span).toNat < span ∧ area.Covers x y ∧
          (x : Int) = arrowStart arrow span + ((x : Int) - arrowStart arrow span).toNat ∧
          tipDistance arrow direction y = row) ↔
            arrowStart arrow span ≤ x ∧ (x : Int) < arrowStart arrow span + span := by
        simp only [hCovers, hDistance, true_and, and_true]
        omega
      simp only [hTurn]
      rw [if_pos (c := area.Covers x y ∧ _) ⟨hCovers, hDistance⟩, arrowMark_of_seen hSeen hRow hDistance, hCount]
      split <;> rfl
    · rw [if_neg hHere, if_neg fun h => hHere ⟨h.2.1, h.2.2.2⟩]

/-- What an arrow shows of the plane is in its bounds, wherever their far edges are cut. -/
theorem covers_of_arrowMark {direction : ArrowDirection} {x y : Nat} (hCovers : area.Covers x y)
    (hMark : (arrowMark arrow direction x y).isSome = true) : arrow.Covers x y := by
  obtain ⟨⟨hTop, hBottom⟩, hFirst, hEnd⟩ := (arrowMark_isSome arrow direction x y).mp hMark
  obtain ⟨⟨hLeft, hRight⟩, -⟩ := arrowRun_columns arrow direction y
  obtain ⟨-, hAreaRight, -, hAreaBottom⟩ := hCovers
  have hLastColumn := area.right_le
  have hLastRow := area.bottom_le
  unfold Bounds.Covers Bounds.left Bounds.right Bounds.top Bounds.bottom
  -- the cell is on the screen, and so before an edge that is cut as well
  rw [toInt_saturate, toInt_saturate]
  omega

/-- The loops paint what the triangle has, in the part that is in the area, and nothing else. -/
theorem drawArrow_repaints (b : Buffer) (area : Rect) (arrow : Bounds) (direction : ArrowDirection) (color : Color) :
    Repaints b (fun x y c => if area.Covers x y then painted color (arrowMark arrow direction x y) c else c)
      (drawArrow b area arrow direction color) := by
  unfold drawArrow
  split
  · next hUnseen =>
    -- no cell of the area is in the bounds
    refine (Repaints.refl b).congr fun x y _ _ c => ?_
    split
    · next hCovers =>
      have hNone : arrowMark arrow direction x y = none := by
        refine Option.not_isSome_iff_eq_none.mp fun hMark => ?_
        obtain ⟨r, hr, -⟩ := (arrow.covers_clip area x y).mpr ⟨hCovers, covers_of_arrowMark hCovers hMark⟩
        rw [Option.isNone_iff_eq_none.mp hUnseen] at hr
        cases hr
      rw [hNone]
      rfl
    · rfl
  · next hSome =>
    have hSeen : (arrow.clip area).isNone = false := Bool.eq_false_iff.mpr hSome
    refine (Repaints.foldl_range (fun _ y => (tipDistance arrow direction y).toNat) ?_
      (fun b row hRow => drawArrowRow_repaints hSeen direction color hRow) b).congr ?_
    · rintro row x y ⟨-, hDistance⟩
      rw [hDistance, Int.toNat_natCast]
    · intro x y _ _ c
      by_cases hCovers : area.Covers x y
      · by_cases hRow : HasRow arrow y
        · obtain ⟨hTip, hLast⟩ := (hasRow_iff arrow direction y).mp hRow
          rw [if_pos ⟨by omega, hCovers, by omega⟩, if_pos hCovers]
        · -- a row that is not the arrow's is painted by no turn, and has nothing of the triangle
          have hNoTurn : ¬ ((tipDistance arrow direction y).toNat < arrow.height.toNat ∧ area.Covers x y ∧
              tipDistance arrow direction y = (tipDistance arrow direction y).toNat) := by
            rw [hasRow_iff arrow direction] at hRow
            omega
          rw [if_neg hNoTurn, if_pos hCovers, (triangle arrow direction).rows x y hRow]
          rfl
      · rw [if_neg fun h => hCovers h.2.1, if_neg hCovers]

end loops

end GuidedTour.Bubble
