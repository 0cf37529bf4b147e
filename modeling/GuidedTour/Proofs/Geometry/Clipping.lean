import GuidedTour.Proofs.Geometry.Fixed
import GuidedTour.Proofs.Screen.Coverage

/-!
# What is left of a box in an area

All drawing, dimming and hit testing asks two questions of bounds: which rectangle of the screen they fill, and whether a
position lies inside. The first is answered by cutting the four signed edges to those of the area and turning them into
screen coordinates, the second by comparing with the edges as they are. The bounds may lie anywhere, their far edges may
be cut at the end of the range, and they may be without a cell; the two answers agree all the same.

Main results:

* `clipEdges_edges` - the edges of what is left are the edges of the box or of the area, whichever is further inside.
* `clipEdges?_eq` - no difference and no conversion to screen coordinates loses anything.
* `clip_exact` - what is left has exactly the positions of the area that lie inside, and there is nothing left only if
  there are none.
-/

namespace GuidedTour

/-! ## Edges of what is left -/

section edges

variable {left top right bottom : Int32} {area : Rect}

/-- What is left of a box lies within the area, and so within 16 bits. -/
theorem edges_within (left top right bottom : Int32) (area : Rect) :
    0 ≤ max left.toInt area.left ∧ min right.toInt area.right ≤ 65535 ∧
      0 ≤ max top.toInt area.top ∧ min bottom.toInt area.bottom ≤ 65535 :=
  ⟨Int.le_trans (Int.natCast_nonneg _) (Int.le_max_right _ _),
    Int.le_trans (Int.min_le_right _ _) (Int.ofNat_le.mpr area.right_le),
    Int.le_trans (Int.natCast_nonneg _) (Int.le_max_right _ _),
    Int.le_trans (Int.min_le_right _ _) (Int.ofNat_le.mpr area.bottom_le)⟩

/-- One axis of a rectangle that is built within 16 bits. -/
theorem axis_of {start stop : Int} (hFirst : 0 ≤ start) (hSome : start < stop) (hLast : stop ≤ 65535) :
    ((UInt16.ofNat (min start.toNat 65535)).toNat : Int) = start ∧
      ((UInt16.ofNat (min (stop - start).toNat (65535 - min start.toNat 65535))).toNat : Int) = stop - start := by
  rw [UInt16.toNat_ofNat', UInt16.toNat_ofNat']
  omega

/-- The edges of what is left are the edges of the box or of the area, whichever is further inside, and they do not
meet. -/
theorem Bounds.clipEdges_edges {r : Rect} (hClip : clipEdges left top right bottom area = some r) :
    ((r.left : Int) = max left.toInt area.left ∧ (r.right : Int) = min right.toInt area.right ∧ r.left < r.right) ∧
      (r.top : Int) = max top.toInt area.top ∧ (r.bottom : Int) = min bottom.toInt area.bottom ∧ r.top < r.bottom := by
  obtain ⟨hFirst, hLast, hUpper, hLower⟩ := edges_within left top right bottom area
  unfold clipEdges at hClip
  dsimp only at hClip
  split at hClip
  · cases hClip
  · next hSome =>
    obtain rfl := Option.some.inj hClip
    generalize max left.toInt area.left = first at *
    generalize min right.toInt area.right = last at *
    generalize max top.toInt area.top = upper at *
    generalize min bottom.toInt area.bottom = lower at *
    obtain ⟨hLeft, hWidth⟩ := axis_of hFirst (by omega) hLast
    obtain ⟨hTop, hHeight⟩ := axis_of hUpper (by omega) hLower
    unfold Rect.left Rect.right Rect.top Rect.bottom Rect.of
    dsimp only
    omega

/-- Where something is left, its first cell is. -/
theorem Bounds.covers_corner {r : Rect} (hClip : clipEdges left top right bottom area = some r) :
    r.Covers r.x.toNat r.y.toNat := by
  obtain ⟨⟨-, -, hColumns⟩, -, -, hRows⟩ := clipEdges_edges hClip
  exact ⟨Nat.le_refl _, hColumns, Nat.le_refl _, hRows⟩

/-- So what is left is not without a cell. -/
theorem Bounds.isEmpty_of_clip {b : Bounds} {r : Rect} (hClip : b.clip area = some r) : r.isEmpty = false :=
  Bool.eq_false_iff.mpr fun hEmpty => Rect.not_covers_of_isEmpty hEmpty _ _ (covers_corner hClip)

end edges

/-! ## In 16 and 32 bits -/

namespace Fixed

/-- An axis of what is left: the first coordinate and the extent. The difference of the edges has 32 bits, and both
numbers are turned into 16-bit ones. -/
def axis? (start stop : Int) : Option (UInt16 × UInt16) := do
  let extent ← int32? (stop - start)
  let first ← uint16? start
  let extent ← uint16? extent.toInt
  return (first, extent)

/-- Clipping in 32-bit arithmetic, with the result in 16-bit coordinates. -/
def clipEdges? (left top right bottom : Int32) (area : Rect) : Option (Option Rect) :=
  let left := max left.toInt area.left
  let top := max top.toInt area.top
  let right := min right.toInt area.right
  let bottom := min bottom.toInt area.bottom
  if right ≤ left ∨ bottom ≤ top then some none
  else do
    let (x, width) ← axis? left right
    let (y, height) ← axis? top bottom
    return some (.of x.toNat y.toNat width.toNat height.toNat)

theorem axis?_of {start stop : Int} (hFirst : 0 ≤ start) (hSome : start < stop) (hLast : stop ≤ 65535) :
    ∃ first extent, axis? start stop = some (first, extent) ∧ first.toNat = start.toNat ∧
      extent.toNat = (stop - start).toNat := by
  obtain ⟨width, hWidth, hWidthIs⟩ := int32?_of (i := stop - start) (by omega) (by omega)
  obtain ⟨first, hStart, hStartIs⟩ := uint16?_of (i := start) (by omega) (by omega)
  obtain ⟨extent, hExtent, hExtentIs⟩ := uint16?_of (i := width.toInt) (by omega) (by omega)
  refine ⟨first, extent, ?_, by omega, by omega⟩
  unfold axis?
  rw [hWidth, hStart]
  simp only [Option.bind_eq_bind, Option.bind_some, hExtent]
  rfl

/-- No difference and no conversion loses anything. -/
theorem clipEdges?_eq (left top right bottom : Int32) (area : Rect) :
    clipEdges? left top right bottom area = some (Bounds.clipEdges left top right bottom area) := by
  obtain ⟨hFirst, hLast, hUpper, hLower⟩ := edges_within left top right bottom area
  unfold clipEdges? Bounds.clipEdges
  dsimp only
  split
  · rfl
  · next hSome =>
    obtain ⟨x, width, hColumns, hX, hWidth⟩ := axis?_of hFirst (by omega) hLast
    obtain ⟨y, height, hRows, hY, hHeight⟩ := axis?_of hUpper (by omega) hLower
    rw [hColumns, hRows, ← hX, ← hY, ← hWidth, ← hHeight]
    rfl

end Fixed

/-! ## Clipping and containment -/

/-- What is left of a box in an area: exactly the positions of the area that lie in the box, and nothing only if there
are none. -/
structure LeftIn (area : Rect) (inBox : Position → Prop) (rest : Option Rect) : Prop where
  covers  : ∀ r ∈ rest, ∀ p, r.contains p = true ↔ area.contains p = true ∧ inBox p
  nothing : rest = none ↔ ∀ p, ¬ (area.contains p = true ∧ inBox p)

/-- What is left of the box between four edges, which may cross. -/
theorem Bounds.leftIn_clipEdges (left top right bottom : Int32) (area : Rect) :
    LeftIn area (fun p => (left.toInt ≤ p.x.toNat ∧ (p.x.toNat : Int) < right.toInt) ∧
      top.toInt ≤ p.y.toNat ∧ (p.y.toNat : Int) < bottom.toInt) (clipEdges left top right bottom area) := by
  have hCells : ∀ p : Position, (∃ r ∈ clipEdges left top right bottom area, r.contains p = true) ↔
      area.contains p = true ∧ (left.toInt ≤ p.x.toNat ∧ (p.x.toNat : Int) < right.toInt) ∧
        top.toInt ≤ p.y.toNat ∧ (p.y.toNat : Int) < bottom.toInt := by
    intro p
    simp only [Rect.contains_iff_covers, and_assoc]
    exact covers_clipEdges left top right bottom area p.x.toNat p.y.toNat
  cases hClip : clipEdges left top right bottom area with
  | none =>
    simp only [hClip, Option.mem_def, reduceCtorEq, false_and, exists_false, false_iff] at hCells
    exact ⟨fun _ => nofun, iff_of_true rfl hCells⟩
  | some r =>
    simp only [hClip, Option.mem_def, Option.some.injEq, exists_eq_left'] at hCells
    refine ⟨fun r' hr' => ?_, iff_of_false nofun fun hNone => ?_⟩
    · obtain rfl := Option.some.inj hr'
      exact hCells
    · -- what is left has a first cell, and that one lies in the box
      have hFirst := (r.contains_iff_covers ⟨r.x, r.y⟩).mpr (covers_corner hClip)
      exact hNone _ ((hCells _).mp hFirst)

/-- Bounds are clipped to exactly the positions of the area that they contain, wherever they lie, and so is the box
between any four edges; in 16 and 32 bits the same comes out. -/
theorem clip_exact (bounds : Bounds) (left top right bottom : Int32) (area : Rect) :
    (Fixed.clipEdges? bounds.left bounds.top bounds.right bounds.bottom area = some (bounds.clip area) ∧
      LeftIn area (fun p => bounds.contains p = true) (bounds.clip area)) ∧
    Fixed.clipEdges? left top right bottom area = some (Bounds.clipEdges left top right bottom area) ∧
      LeftIn area (fun p => (left.toInt ≤ p.x.toNat ∧ (p.x.toNat : Int) < right.toInt) ∧
        top.toInt ≤ p.y.toNat ∧ (p.y.toNat : Int) < bottom.toInt) (Bounds.clipEdges left top right bottom area) := by
  have hBox := Bounds.leftIn_clipEdges bounds.left bounds.top bounds.right bounds.bottom area
  have hContains : ∀ p : Position, bounds.contains p = true ↔
      (bounds.left.toInt ≤ p.x.toNat ∧ (p.x.toNat : Int) < bounds.right.toInt) ∧
        bounds.top.toInt ≤ p.y.toNat ∧ (p.y.toNat : Int) < bounds.bottom.toInt := by
    intro p
    rw [bounds.contains_iff_covers, Bounds.Covers, and_assoc]
  simp only [hContains]
  exact ⟨⟨Fixed.clipEdges?_eq _ _ _ _ _, hBox⟩, Fixed.clipEdges?_eq _ _ _ _ _, Bounds.leftIn_clipEdges _ _ _ _ _⟩

end GuidedTour
