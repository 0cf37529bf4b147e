import GuidedTour.Overlay.Veil
import GuidedTour.Proofs.Screen.Repaint

/-!
# The complement of the hole

The veil darkens up to four strips around its hole. Each has a finite reach and is cut to the screen, and the edges of
the hole saturate; nevertheless no strip overlaps another or the hole, and as long as the centre of the hole is on the
screen, however far its edges stick out, the strips leave no gap.

Main results:

* `covers_strips` - the cells of the strips, edge by edge.
* `strips_apart` / `strips_outside` - the strips of any hole overlap neither each other nor the hole.
* `covers_strips_of_centred` - around a hole centred on the screen they are its complement.
* `veil_dims_complement` - drawing a veil darkens each cell outside the hole once and changes nothing else.
-/

namespace GuidedTour

theorem Bounds.left_le_right (b : Bounds) : b.left.toInt ≤ b.right.toInt := by
  have hHigh := Int32.toInt_lt b.x
  unfold left right
  rw [toInt_saturate]
  omega

theorem Bounds.top_le_bottom (b : Bounds) : b.top.toInt ≤ b.bottom.toInt := by
  have hHigh := Int32.toInt_lt b.y
  unfold top bottom
  rw [toInt_saturate]
  omega

namespace Overlay

open Screen

/-- Two rectangles share no cell. -/
def Apart (r s : Rect) : Prop := ∀ x y, r.Covers x y → ¬ s.Covers x y

/-! ## The strips of any hole -/

theorem apart_clipEdges {left top right bottom left' top' right' bottom' : Int32} (area : Rect)
    (h : right.toInt ≤ left'.toInt ∨ right'.toInt ≤ left.toInt ∨ bottom.toInt ≤ top'.toInt ∨
      bottom'.toInt ≤ top.toInt) :
    ∀ r ∈ Bounds.clipEdges left top right bottom area, ∀ s ∈ Bounds.clipEdges left' top' right' bottom' area,
      Apart r s := by
  intro r hr s hs x y hCovers hCovers'
  obtain ⟨-, hHere⟩ := (Bounds.covers_clipEdges left top right bottom area x y).mp ⟨r, hr, hCovers⟩
  obtain ⟨-, hThere⟩ := (Bounds.covers_clipEdges left' top' right' bottom' area x y).mp ⟨s, hs, hCovers'⟩
  omega

/-- No two strips overlap. -/
theorem strips_apart (container : Rect) (hole : Bounds) : (strips container hole).Pairwise Apart := by
  have hColumns := hole.left_le_right
  have hRows := hole.top_le_bottom
  unfold strips
  dsimp only
  rw [List.pairwise_filterMap]
  -- the strips above and below are separated by the hole's rows, those beside it by its columns
  refine .cons ?_ (.cons ?_ (.cons ?_ (.cons ?_ .nil)))
  · intro other hOther
    simp only [List.mem_cons, List.not_mem_nil, or_false] at hOther
    rcases hOther with rfl | rfl | rfl
    · exact apart_clipEdges container (.inr (.inr (.inl hRows)))
    · exact apart_clipEdges container (.inr (.inr (.inl (Int.le_refl _))))
    · exact apart_clipEdges container (.inr (.inr (.inl (Int.le_refl _))))
  · intro other hOther
    simp only [List.mem_cons, List.not_mem_nil, or_false] at hOther
    rcases hOther with rfl | rfl
    · exact apart_clipEdges container (.inr (.inr (.inr (Int.le_refl _))))
    · exact apart_clipEdges container (.inr (.inr (.inr (Int.le_refl _))))
  · intro other hOther
    rw [List.mem_singleton.mp hOther]
    exact apart_clipEdges container (.inl hColumns)
  · exact fun other hOther => absurd hOther List.not_mem_nil

/-- The cells of the strips: the columns within reach of the hole's middle above and below its rows, and the columns
within reach beside it. -/
theorem covers_strips (container : Rect) (hole : Bounds) (x y : Nat) :
    (∃ r ∈ strips container hole, r.Covers x y) ↔ container.Covers x y ∧
      (((saturate (hole.centerX.toInt - 65535)).toInt ≤ x ∧ (x : Int) < (saturate (hole.centerX.toInt + 65535)).toInt) ∧
          ((saturate (hole.top.toInt - 65535)).toInt ≤ y ∧ (y : Int) < hole.top.toInt ∨
            hole.bottom.toInt ≤ y ∧ (y : Int) < (saturate (hole.bottom.toInt + 65535)).toInt) ∨
        (hole.top.toInt ≤ y ∧ (y : Int) < hole.bottom.toInt) ∧
          ((saturate (hole.left.toInt - 65535)).toInt ≤ x ∧ (x : Int) < hole.left.toInt ∨
            hole.right.toInt ≤ x ∧ (x : Int) < (saturate (hole.right.toInt + 65535)).toInt)) := by
  have hEach : ∀ parts : List (Option Rect),
      (∃ r ∈ parts.filterMap id, r.Covers x y) ↔ ∃ part ∈ parts, ∃ r ∈ part, r.Covers x y := by
    intro parts
    constructor
    · rintro ⟨r, hr, hCovers⟩
      obtain ⟨part, hPart, hSome⟩ := List.mem_filterMap.mp hr
      exact ⟨part, hPart, r, hSome, hCovers⟩
    · rintro ⟨part, hPart, r, hSome, hCovers⟩
      exact ⟨r, List.mem_filterMap.mpr ⟨part, hPart, hSome⟩, hCovers⟩
  unfold strips stripLength
  dsimp only
  rw [hEach]
  simp only [List.mem_cons, List.not_mem_nil, or_false, or_and_right, exists_or, exists_eq_left,
    Bounds.covers_clipEdges, ← and_or_left]
  refine and_congr_right fun _ => ?_
  omega

/-- The strips lie in the container and beside the hole. -/
theorem strips_outside {container : Rect} {hole : Bounds} {r : Rect} {x y : Nat} (hStrip : r ∈ strips container hole)
    (hCovers : r.Covers x y) : container.Covers x y ∧ ¬ hole.Covers x y := by
  obtain ⟨hInside, hBeside⟩ := (covers_strips container hole x y).mp ⟨r, hStrip, hCovers⟩
  refine ⟨hInside, ?_⟩
  rintro ⟨hLeft, hRight, hTop, hBottom⟩
  omega

/-! ## Holes that are centred on the screen -/

/-- The hole's centre is on the screen. Its edges need not be. -/
def Hole.CentredOnScreen (h : Hole) : Prop :=
  (0 ≤ h.centerX.toInt ∧ h.centerX.toInt ≤ 65535) ∧ 0 ≤ h.centerY.toInt ∧ h.centerY.toInt ≤ 65535

instance (h : Hole) : Decidable h.CentredOnScreen := inferInstanceAs (Decidable (_ ∧ _))

/-- A hole that is centred on the screen has its edges where its centre and its size say: nothing is cut. -/
theorem Hole.CentredOnScreen.edges {h : Hole} (hCentred : h.CentredOnScreen) :
    h.bounds.left.toInt = h.centerX.toInt - h.width.toNat / 2 ∧
      h.bounds.right.toInt = h.centerX.toInt - h.width.toNat / 2 + h.width.toNat ∧
      h.bounds.centerX.toInt = h.centerX.toInt ∧
      h.bounds.top.toInt = h.centerY.toInt - h.height.toNat / 2 ∧
      h.bounds.bottom.toInt = h.centerY.toInt - h.height.toNat / 2 + h.height.toNat := by
  obtain ⟨⟨hLeft, hRight⟩, hTop, hBottom⟩ := hCentred
  have hWidth := h.width.toNat_lt
  have hHeight := h.height.toNat_lt
  simp only [bounds, Bounds.left, Bounds.right, Bounds.centerX, Bounds.top, Bounds.bottom, toInt_saturate]
  omega

/-- Around a hole that is centred on the screen the strips leave no gap. -/
theorem covers_strips_of_centred {hole : Hole} (hCentred : hole.CentredOnScreen) (container : Rect) (x y : Nat) :
    (∃ r ∈ strips container hole.bounds, r.Covers x y) ↔ container.Covers x y ∧ ¬ hole.bounds.Covers x y := by
  constructor
  · rintro ⟨r, hStrip, hCovers⟩
    exact strips_outside hStrip hCovers
  · rintro ⟨hInside, hOutside⟩
    refine (covers_strips container hole.bounds x y).mpr ⟨hInside, ?_⟩
    -- the reach is as long as the screen is wide, and the hole's middle is on the screen
    obtain ⟨hLeft, hRight, hMiddle, hTop, hBottom⟩ := hCentred.edges
    obtain ⟨⟨hFirst, hLast⟩, hUpper, hLower⟩ := hCentred
    obtain ⟨-, hColumn, -, hRow⟩ := hInside
    have hWidth := container.right_le
    have hHeight := container.bottom_le
    have hHoleWidth := hole.width.toNat_lt
    have hHoleHeight := hole.height.toNat_lt
    unfold Bounds.Covers at hOutside
    rw [hLeft, hRight, hTop, hBottom] at hOutside ⊢
    rw [hMiddle]
    simp only [toInt_saturate]
    omega

/-! ## Drawing a veil -/

/-- A cell of an area outside a hole is darkened, any other is left. -/
def Veil.shade (v : Veil) (area : Rect) (hole : Hole) (now : Nanos) (x y : Nat) (c : Cell) : Cell :=
  if area.Covers x y ∧ ¬ hole.bounds.Covers x y then c.dim v.color (v.opacity now) else c

theorem Veil.draw_repaints (v : Veil) (area : Rect) (b : Buffer) (now : Nanos)
    (hCentred : (v.drawnHole area now).CentredOnScreen) :
    b.Repaints (v.shade area (v.drawnHole area now) now) (v.draw area b now).2 := by
  have hStrips := Buffer.foldl_mapRect_repaints (fun _ _ c => c.dim v.color (v.opacity now))
    (strips area (v.drawnHole area now).bounds) b (strips_apart area _)
  refine hStrips.congr fun x y i _ c => ?_
  simp only [covers_strips_of_centred hCentred, shade]

/--
**The veil is the complement of the hole.** The strips of any hole whatsoever share no cell with each other or with the
hole and stay inside the container. Where the centre of the hole that is drawn is on the screen, each cell of the area
outside the hole is darkened exactly once, and every other cell of the buffer is left as it was.
-/
theorem veil_dims_complement (v : Veil) (area : Rect) (b : Buffer) (now : Nanos) :
    ((v.drawnHole area now).CentredOnScreen → (v.draw area b now).2.area = b.area ∧
      ∀ x y, (v.draw area b now).2.cell? x y = (b.cell? x y).map fun c =>
        if area.Covers x y ∧ ¬ (v.drawnHole area now).bounds.Covers x y then c.dim v.color (v.opacity now) else c) ∧
    ∀ (container : Rect) (hole : Bounds), (strips container hole).Pairwise Apart ∧
      ∀ r ∈ strips container hole, ∀ x y, r.Covers x y → container.Covers x y ∧ ¬ hole.Covers x y := by
  refine ⟨fun hCentred => ?_, fun container hole => ⟨strips_apart container hole, ?_⟩⟩
  · have hDrawn := v.draw_repaints area b now hCentred
    exact ⟨hDrawn.area, hDrawn.cell?_eq⟩
  · intro r hStrip x y hCovers
    exact strips_outside hStrip hCovers

/-- A hole that sticks out of the screen on the left leaves out its own cells and no more. -/
theorem veil_beside_hole :
    let v : Veil := { color := .rgb 0 0 0, alpha := 1, attached := 0, hole := some (.settled ⟨1, 2, 6, 3⟩ 0) }
    let area : Rect := ⟨0, 0, 8, 5⟩
    let b := Buffer.blank area
    (v.drawnHole area fadeIn).CentredOnScreen ∧
      (v.draw area b fadeIn).2.cell? 3 2 = some {} ∧
      (v.draw area b fadeIn).2.cell? 4 2 = some (Cell.dim (.rgb 0 0 0) 1 {}) := by
  intro v area b
  have hCentred : (v.drawnHole area fadeIn).CentredOnScreen := by decide
  obtain ⟨-, hCells⟩ := (veil_dims_complement v area b fadeIn).1 hCentred
  refine ⟨hCentred, (hCells 3 2).trans ?_, (hCells 4 2).trans ?_⟩ <;> decide

end Overlay

end GuidedTour
