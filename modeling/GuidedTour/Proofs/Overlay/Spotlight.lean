import GuidedTour.Proofs.Overlay.Complement

/-!
# The hole around an area

The hole is given by a centre and a size, both in whole cells, so halves are cut off twice on each axis. The hole still
contains the area, and the padding goes to opposite sides in parts that differ by one cell at most. Once the hole has
come to rest, the veil leaves exactly its target out, and a target without height leaves out nothing.

Main results:

* `around_surrounds` - how the hole lies around an area on the screen.
* `centred_around` / `centred_closed` / `centred_covering` - the holes that a veil is sent to are centred on the screen.
* `draw_of_rest` - what a veil whose hole has come to rest makes of each cell.
-/

namespace GuidedTour

/-- Of bounds on the screen no edge is cut. -/
theorem Bounds.OnScreen.edges {b : Bounds} (h : b.OnScreen) :
    b.left.toInt = b.x.toInt ∧ b.right.toInt = b.x.toInt + b.width.toNat ∧
      b.centerX.toInt = b.x.toInt + b.width.toNat / 2 ∧
      b.top.toInt = b.y.toInt ∧ b.bottom.toInt = b.y.toInt + b.height.toNat ∧
      b.centerY.toInt = b.y.toInt + b.height.toNat / 2 := by
  obtain ⟨⟨hLeft, hRight⟩, hTop, hBottom⟩ := h
  simp only [left, right, centerX, top, bottom, centerY, toInt_saturate, true_and]
  omega

namespace Overlay

open Motion Screen

/-! ## Around an area -/

/-- How padded bounds lie around others. -/
structure Surrounds (outer inner : Bounds) (padding : CellSize) : Prop where
  covers  : ∀ x y, inner.Covers x y → outer.Covers x y
  width   : outer.width.toNat = min (inner.width.toNat + padding.width.toNat) 65535
  height  : outer.height.toNat = min (inner.height.toNat + padding.height.toNat) 65535
  /-- The parts of the padding on opposite sides differ by one cell at most. -/
  columns : ((inner.left.toInt - outer.left.toInt) - (outer.right.toInt - inner.right.toInt)).natAbs ≤ 1
  rows    : ((inner.top.toInt - outer.top.toInt) - (outer.bottom.toInt - inner.bottom.toInt)).natAbs ≤ 1

theorem centred_around {target : Bounds} (h : target.OnScreen) (padding : CellSize) :
    (Hole.around target padding).CentredOnScreen := by
  obtain ⟨-, -, hMiddle, -, -, hCentre⟩ := h.edges
  obtain ⟨⟨hLeft, hRight⟩, hTop, hBottom⟩ := h
  unfold Hole.CentredOnScreen Hole.around
  dsimp only
  rw [hMiddle, hCentre]
  omega

/-- Closing a hole leaves its centre where it is. -/
theorem centred_closed {h : Hole} (hCentred : h.CentredOnScreen) : h.closed.CentredOnScreen := hCentred

theorem centred_covering {area : Rect} (h : area.OnScreen) : (Hole.covering area).CentredOnScreen :=
  centred_around (Bounds.onScreen_ofRect h) ⟨0, 0⟩

theorem around_surrounds {target : Bounds} (h : target.OnScreen) (padding : CellSize) :
    Surrounds (Hole.around target padding).bounds target padding := by
  have hWidth : (Hole.around target padding).width.toNat = min (target.width.toNat + padding.width.toNat) 65535 :=
    toNat_saturate16 _
  have hHeight : (Hole.around target padding).height.toNat =
      min (target.height.toNat + padding.height.toNat) 65535 := toNat_saturate16 _
  -- both are measured from the middle of the target, which is on the screen
  obtain ⟨hLeft, hRight, -, hTop, hBottom⟩ := (centred_around h padding).edges
  obtain ⟨hLeft', hRight', hMiddle, hTop', hBottom', hCentre⟩ := h.edges
  obtain ⟨⟨hFirst, hLast⟩, hUpper, hLower⟩ := h
  have hSameX : (Hole.around target padding).centerX = target.centerX := rfl
  have hSameY : (Hole.around target padding).centerY = target.centerY := rfl
  rw [hSameX, hMiddle, hWidth] at hLeft hRight
  rw [hSameY, hCentre, hHeight] at hTop hBottom
  refine ⟨fun x y hCovers => ?_, hWidth, hHeight, ?_, ?_⟩
  · unfold Bounds.Covers at hCovers ⊢
    rw [hLeft', hRight', hTop', hBottom'] at hCovers
    rw [hLeft, hRight, hTop, hBottom]
    omega
  · rw [hLeft, hRight, hLeft', hRight']
    omega
  · rw [hTop, hBottom, hTop', hBottom']
    omega

/-- Bounds without height cover no cell. -/
theorem not_covers_of_flat {b : Bounds} (h : b.height = 0) (x y : Nat) : ¬ b.Covers x y := by
  have hLow := Int32.le_toInt b.y
  have hHigh := Int32.toInt_lt b.y
  have hFlat : b.bottom.toInt = b.top.toInt := by
    unfold Bounds.bottom Bounds.top
    rw [h, toInt_saturate]
    simp only [UInt16.toNat_zero]
    omega
  rintro ⟨-, -, hTop, hBottom⟩
  omega

/-! ## A hole at rest -/

/-- A veil whose hole has come to rest leaves out the hole's target. -/
theorem draw_of_rest {v : Veil} {hole : Hole} {now : Nanos} (hTarget : v.targetHole = some hole)
    (hRest : ∀ course ∈ v.hole, course.progress now = 1) (hCentred : hole.CentredOnScreen) (area : Rect) (b : Buffer) :
    b.Repaints (v.shade area hole now) (v.draw area b now).2 := by
  obtain ⟨course, hHole, rfl⟩ := Option.map_eq_some_iff.mp hTarget
  have hDrawn : v.drawnHole area now = course.target := by
    unfold Veil.drawnHole Veil.holeAt
    rw [hHole, Option.map_some, Option.getD_some, Tween.valueAt_of_rest (hRest course hHole)]
  have hRepaints := v.draw_repaints area b now (by rw [hDrawn]; exact hCentred)
  rwa [hDrawn] at hRepaints

end Overlay

end GuidedTour
