import GuidedTour.Bubble.Drawing
import Mathlib.Tactic.Common

/-!
# The cells of a rectangle

A rectangle on the screen and bounds with a signed origin are compared by the cells that they cover, given by column
and row. Intersection and clipping are then conjunctions, and no proof about drawing needs to look at edges again.

Main results:

* `contains_iff_covers` / `Bounds.contains_iff_covers` - covering a cell is containing its position.
* `covers_intersection` - the cells of a common part.
* `covers_clipEdges` - clipping a box leaves exactly its cells inside the area, and nothing where there are none.
-/

namespace GuidedTour

/-- The rectangle has the cell at a column and a row. -/
def Rect.Covers (r : Rect) (x y : Nat) : Prop := r.left ≤ x ∧ x < r.right ∧ r.top ≤ y ∧ y < r.bottom

instance (r : Rect) (x y : Nat) : Decidable (r.Covers x y) := inferInstanceAs (Decidable (_ ∧ _))

/-- The bounds have the cell at a column and a row. -/
def Bounds.Covers (b : Bounds) (x y : Nat) : Prop :=
  b.left.toInt ≤ x ∧ (x : Int) < b.right.toInt ∧ b.top.toInt ≤ y ∧ (y : Int) < b.bottom.toInt

instance (b : Bounds) (x y : Nat) : Decidable (b.Covers x y) := inferInstanceAs (Decidable (_ ∧ _))

/-- The bounds lie wholly on the screen. -/
def Bounds.OnScreen (b : Bounds) : Prop :=
  (0 ≤ b.x.toInt ∧ b.x.toInt + b.width.toNat ≤ 65535) ∧ 0 ≤ b.y.toInt ∧ b.y.toInt + b.height.toNat ≤ 65535

instance (b : Bounds) : Decidable b.OnScreen := inferInstanceAs (Decidable (_ ∧ _))

theorem Bounds.contains_iff_covers (b : Bounds) (p : Position) :
    b.contains p = true ↔ b.Covers p.x.toNat p.y.toNat := by
  simp [Bounds.contains, Bounds.Covers, and_assoc]

/-- A 16-bit number is the same as a 32-bit one. -/
theorem toInt_ofNat16 (n : UInt16) : (Int32.ofInt n.toNat).toInt = n.toNat := by
  have hHigh := n.toNat_lt
  rw [Int32.toInt_ofInt]
  simp only [Int.bmod_def, Int32.size]
  omega

/-- So is a negated one. -/
theorem toInt_neg_ofNat16 (n : UInt16) : (Int32.ofInt (-(n.toNat : Int))).toInt = -n.toNat := by
  have hHigh := n.toNat_lt
  rw [Int32.toInt_ofInt]
  simp only [Int.bmod_def, Int32.size]
  omega

namespace Rect

theorem contains_iff_covers (r : Rect) (p : Position) : r.contains p = true ↔ r.Covers p.x.toNat p.y.toNat := by
  simp [contains, Covers, and_assoc]

theorem left_le (r : Rect) : r.left ≤ 65535 := Nat.le_of_lt_succ r.x.toNat_lt

theorem top_le (r : Rect) : r.top ≤ 65535 := Nat.le_of_lt_succ r.y.toNat_lt

theorem right_le (r : Rect) : r.right ≤ 65535 := Nat.min_le_right _ _

theorem bottom_le (r : Rect) : r.bottom ≤ 65535 := Nat.min_le_right _ _

theorem not_covers_of_isEmpty {r : Rect} (h : r.isEmpty = true) (x y : Nat) : ¬ r.Covers x y := by
  simp only [isEmpty, Bool.or_eq_true, beq_iff_eq, ← UInt16.toNat_inj, UInt16.toNat_zero] at h
  unfold Covers left right top bottom
  omega

/-- A rectangle whose far edges lie on the screen is built as asked. -/
theorem covers_of {x y width height : Nat} (hRight : x + width ≤ 65535) (hBottom : y + height ≤ 65535)
    (column row : Nat) : (Rect.of x y width height).Covers column row ↔
      x ≤ column ∧ column < x + width ∧ y ≤ row ∧ row < y + height := by
  unfold Covers left right top bottom Rect.of
  simp only [UInt16.toNat_ofNat']
  omega

/-- The common part of two ranges of columns or rows on the screen. -/
theorem mem_common {start stop start' stop' x : Nat} (hStop : stop ≤ 65535) :
    (max start start' ≤ x ∧ x < min (max start start' + (min stop stop' - max start start')) 65535) ↔
      (start ≤ x ∧ x < stop) ∧ start' ≤ x ∧ x < stop' := by
  omega

theorem intersection_edges (a b : Rect) : (a.intersection b).x.toNat = max a.left b.left ∧
    (a.intersection b).y.toNat = max a.top b.top ∧
    (a.intersection b).width.toNat = min a.right b.right - max a.left b.left ∧
    (a.intersection b).height.toNat = min a.bottom b.bottom - max a.top b.top := by
  have hRight := a.right_le
  have hBottom := a.bottom_le
  -- every one of the four numbers fits into 16 bits
  refine ⟨?_, ?_, ?_, ?_⟩
  · exact UInt16.toNat_ofNat_of_lt' (Nat.lt_succ_of_le (Nat.max_le.mpr ⟨a.left_le, b.left_le⟩))
  · exact UInt16.toNat_ofNat_of_lt' (Nat.lt_succ_of_le (Nat.max_le.mpr ⟨a.top_le, b.top_le⟩))
  · exact UInt16.toNat_ofNat_of_lt' (by show _ < 65536; omega)
  · exact UInt16.toNat_ofNat_of_lt' (by show _ < 65536; omega)

theorem covers_intersection (a b : Rect) (x y : Nat) :
    (a.intersection b).Covers x y ↔ a.Covers x y ∧ b.Covers x y := by
  obtain ⟨hX, hY, hWidth, hHeight⟩ := intersection_edges a b
  have hShape : (a.intersection b).Covers x y ↔
      (max a.left b.left ≤ x ∧ x < min (max a.left b.left + (min a.right b.right - max a.left b.left)) 65535) ∧
        max a.top b.top ≤ y ∧ y < min (max a.top b.top + (min a.bottom b.bottom - max a.top b.top)) 65535 := by
    rw [← hWidth, ← hHeight, ← hX, ← hY, and_assoc]
    exact Iff.rfl
  rw [hShape, mem_common a.right_le, mem_common a.bottom_le]
  constructor
  · rintro ⟨⟨⟨hLeft, hRight⟩, hLeft', hRight'⟩, ⟨hTop, hBottom⟩, hTop', hBottom'⟩
    exact ⟨⟨hLeft, hRight, hTop, hBottom⟩, hLeft', hRight', hTop', hBottom'⟩
  · rintro ⟨⟨hLeft, hRight, hTop, hBottom⟩, hLeft', hRight', hTop', hBottom'⟩
    exact ⟨⟨⟨hLeft, hRight⟩, hLeft', hRight'⟩, ⟨hTop, hBottom⟩, hTop', hBottom'⟩

/-- The far edges of the rectangle lie on the screen, as those of every rectangle do that was cut to it. -/
def OnScreen (r : Rect) : Prop := r.x.toNat + r.width.toNat ≤ 65535 ∧ r.y.toNat + r.height.toNat ≤ 65535

instance (r : Rect) : Decidable r.OnScreen := inferInstanceAs (Decidable (_ ∧ _))

theorem covers_iff_of_onScreen {r : Rect} (h : r.OnScreen) (x y : Nat) : r.Covers x y ↔
    (r.left ≤ x ∧ x < r.left + r.width.toNat) ∧ r.top ≤ y ∧ y < r.top + r.height.toNat := by
  obtain ⟨hRight, hBottom⟩ := h
  unfold Covers left right top bottom
  omega

theorem onScreen_intersection (a b : Rect) : (a.intersection b).OnScreen := by
  obtain ⟨hX, hY, hWidth, hHeight⟩ := intersection_edges a b
  have hLeft := Nat.max_le.mpr ⟨a.left_le, b.left_le⟩
  have hTop := Nat.max_le.mpr ⟨a.top_le, b.top_le⟩
  have hRight := a.right_le
  have hBottom := a.bottom_le
  unfold OnScreen
  rw [hX, hY, hWidth, hHeight]
  omega

end Rect

theorem Bounds.onScreen_ofRect {r : Rect} (h : r.OnScreen) : (Bounds.ofRect r).OnScreen := by
  obtain ⟨hRight, hBottom⟩ := h
  unfold OnScreen ofRect
  dsimp only
  rw [toInt_ofNat16, toInt_ofNat16]
  omega

/-! ## Clipping -/

/-- Clipping the box between four edges to an area leaves exactly the cells of the area between the edges. -/
theorem Bounds.covers_clipEdges (left top right bottom : Int32) (area : Rect) (x y : Nat) :
    (∃ r ∈ clipEdges left top right bottom area, r.Covers x y) ↔
      area.Covers x y ∧ left.toInt ≤ x ∧ (x : Int) < right.toInt ∧ top.toInt ≤ y ∧ (y : Int) < bottom.toInt := by
  have hRight := area.right_le
  have hBottom := area.bottom_le
  unfold clipEdges
  dsimp only
  split
  · next hEmpty =>
    -- crossing edges leave no column or no row
    unfold Rect.Covers
    simp only [Option.mem_def, reduceCtorEq, false_and, exists_false, false_iff]
    omega
  · next hSome =>
    simp only [Option.mem_def, Option.some.injEq, exists_eq_left']
    rw [Rect.covers_of (by omega) (by omega)]
    unfold Rect.Covers
    omega

/-- Bounds without a column have no cell to be seen. -/
theorem Bounds.clip_of_narrow {b : Bounds} (hNarrow : b.width = 0) (area : Rect) : b.clip area = none := by
  have hEnd : b.right.toInt = b.left.toInt := by
    have hLow := Int32.le_toInt b.x
    have hHigh := Int32.toInt_lt b.x
    unfold Bounds.right Bounds.left
    rw [toInt_saturate, hNarrow]
    show max _ (min (b.x.toInt + 0) _) = _
    omega
  -- its right edge is its left one
  refine if_pos (.inl ?_)
  omega

end GuidedTour
