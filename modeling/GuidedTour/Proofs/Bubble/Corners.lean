import GuidedTour.Proofs.Bubble.Picture
import GuidedTour.Proofs.Geometry.Clipping
import GuidedTour.Proofs.Screen.Glyphs

/-!
# The corners of a bubble

A bubble with a corner radius has no corners: what is behind it is to be seen there. The body leaves the four cells out,
and the shadow leaves out all that the bubble covers. The content does not know of them: it is given the rectangle within
the insets and lays the bubble's colors over all of it. As long as a corner has an inset on one of its two sides it lies
outside of that rectangle. If both insets are zero, the content fills the corner. A row of the text that is too long for
the rectangle, as a glyph of two columns can make it, may also get at a right-hand corner over an inset.

Main results:

* `isClippedCorner_of_corner` - the corners are the cells that the body leaves out.
* `covers_corner_iff`, `reached_of_row` - which insets keep a text away from a corner.
* `draw_at_corner` - at a corner nothing is drawn but the content.
* `corner_shown` - what is to be seen at the corners of a bubble with a text.
-/

namespace GuidedTour

open Screen Screen.Buffer

/-! ## Texts -/

namespace Content

/-- The colors that a text is drawn in. -/
def textStyle (style : BubbleStyle) : Style := { fg := some style.textColor, bg := some style.backgroundColor }

/-- A text in a rectangle with a cell is a paragraph. -/
theorem draw_of_lines {c : Content} {lines : List Line} (hLines : c.lines? = some lines) {r : Rect}
    (hSome : r.isEmpty = false) (style : BubbleStyle) (b : Buffer) :
    c.draw r style b = Paragraph.draw b r (textStyle style) lines := by
  unfold draw
  rw [hSome, if_neg Bool.false_ne_true]
  cases c with
  | plain text =>
    obtain rfl := Option.some.inj hLines
    rfl
  | rich lines' =>
    obtain rfl := Option.some.inj hLines
    rfl
  | custom view => cases hLines

end Content

/-! ## Corners -/

/-- A corner of a rectangle. -/
structure Corner where
  onRight  : Bool
  atBottom : Bool
  deriving DecidableEq

namespace Corner

/-- The corner is the cell at a column and a row. -/
def At (k : Corner) (b : Bounds) (x y : Nat) : Prop :=
  (x : Int) = (if k.onRight then b.x.toInt + b.width.toNat - 1 else b.x.toInt) ∧
    (y : Int) = if k.atBottom then b.y.toInt + b.height.toNat - 1 else b.y.toInt

instance (k : Corner) (b : Bounds) (x y : Nat) : Decidable (k.At b x y) := inferInstanceAs (Decidable (_ ∧ _))

/-- The inset left or right of the content, on the side of the corner. -/
def sideInset (k : Corner) (i : EdgeInsets) : UInt16 := if k.onRight then i.right else i.left

/-- The inset above or below the content, on the side of the corner. -/
def endInset (k : Corner) (i : EdgeInsets) : UInt16 := if k.atBottom then i.bottom else i.top

/-- The corner belongs to the rectangle of the content: no inset keeps it out, and the insets leave room. -/
def Filled (k : Corner) (i : EdgeInsets) (size : CellSize) : Prop :=
  (k.sideInset i = 0 ∧ i.left.toNat + i.right.toNat < size.width.toNat) ∧
    k.endInset i = 0 ∧ i.top.toNat + i.bottom.toNat < size.height.toNat

/-- The text gets at the corner: it fills it, or it has glyphs that may be written beyond the right side of its rectangle,
and a row of the rectangle leads to the corner. -/
def Reached (k : Corner) (i : EdgeInsets) (size : CellSize) (lines : List Line) : Prop :=
  (k.endInset i = 0 ∧ i.top.toNat + i.bottom.toNat < size.height.toNat) ∧
    i.left.toNat + i.right.toNat < size.width.toNat ∧
    (k.sideInset i = 0 ∨ k.onRight = true ∧ ∃ l ∈ lines, ∃ g ∈ l.glyphs {}, g.width ≠ 1)

end Corner

namespace Bubble

open Layout

variable {bubble : Bounds} {style : BubbleStyle} {area : Rect} {x y : Nat} {k : Corner}

/-- A corner on the screen is a cell of the bubble, and no edge that meets there is cut. -/
theorem covers_of_corner (hWidth : 1 ≤ bubble.width.toNat) (hHeight : 1 ≤ bubble.height.toNat)
    (hCorner : k.At bubble x y) (hArea : area.Covers x y) : bubble.Covers x y := by
  obtain ⟨hX, hY⟩ := hCorner
  obtain ⟨-, hRight, -, hBottom⟩ := hArea
  have hRightEnd := area.right_le
  have hBottomEnd := area.bottom_le
  unfold Bounds.Covers Bounds.left Bounds.right Bounds.top Bounds.bottom
  rw [toInt_saturate, toInt_saturate]
  split at hX <;> split at hY <;> omega

/-- The corners are the cells that a bubble with a corner radius leaves out. -/
theorem isClippedCorner_of_corner {radius : UInt16} (hRadius : radius ≠ 0) (hWidth : 3 ≤ bubble.width.toNat)
    (hHeight : 2 ≤ bubble.height.toNat) (hCorner : k.At bubble x y) (hArea : area.Covers x y) :
    isClippedCorner bubble radius x y = true := by
  obtain ⟨hX, hY⟩ := hCorner
  obtain ⟨-, hRight, -, hBottom⟩ := hArea
  have hRightEnd := area.right_le
  have hBottomEnd := area.bottom_le
  have hLarge : ¬ (radius == 0 || bubble.width < 3 || bubble.height < 2) = true := by
    simp only [Bool.or_eq_true, beq_iff_eq, decide_eq_true_eq, UInt16.lt_iff_toNat_lt, not_or]
    refine ⟨⟨hRadius, ?_⟩, ?_⟩
    · exact Nat.not_lt.mpr hWidth
    · exact Nat.not_lt.mpr hHeight
  unfold isClippedCorner Bounds.left Bounds.right Bounds.top Bounds.bottom
  rw [if_neg hLarge]
  simp only [Bool.and_eq_true, Bool.or_eq_true, decide_eq_true_eq]
  simp only [toInt_saturate]
  split at hX <;> split at hY <;> omega

/-! ## Insets -/

/-- At an end of an axis a cell is within the insets only if the inset there is zero, and the two leave room. -/
theorem within_insets_iff {origin : Int32} {extent first last : UInt16} {cell : Nat} (hScreen : cell ≤ 65535)
    (hExtent : 1 ≤ extent.toNat) {far : Bool}
    (hCell : (cell : Int) = if far then origin.toInt + extent.toNat - 1 else origin.toInt) :
    ((saturate (origin.toInt + first.toNat)).toInt ≤ cell ∧
      (cell : Int) < (saturate ((saturate (origin.toInt + first.toNat)).toInt +
        (UInt16.ofNat (extent.toNat - (saturate16 (first.toNat + last.toNat)).toNat)).toNat)).toInt) ↔
      (if far then last else first) = 0 ∧ first.toNat + last.toNat < extent.toNat := by
  have hExtentMax := extent.toNat_lt
  have hZero : (if far then last else first) = 0 ↔ (if far then last.toNat else first.toNat) = 0 := by
    rw [← UInt16.toNat_inj, apply_ite UInt16.toNat, UInt16.toNat_zero]
  rw [toNat_inset_extent, hZero, toInt_saturate, toInt_saturate]
  -- the cell is on the screen, so no edge that it is compared with is cut
  cases far <;> simp only [Bool.false_eq_true, if_true, if_false] at hCell ⊢ <;> omega

/-- The rectangle of the content has a corner of the bubble only if the corner is not kept out. -/
theorem covers_inset_corner_iff (hWidth : 1 ≤ bubble.width.toNat) (hHeight : 1 ≤ bubble.height.toNat)
    (hCorner : k.At bubble x y) (hArea : area.Covers x y) :
    (insetBounds bubble style).Covers x y ↔ k.Filled style.textInsets bubble.size := by
  obtain ⟨hX, hY⟩ := hCorner
  have hColumn := Nat.le_of_lt (Nat.lt_of_lt_of_le hArea.2.1 area.right_le)
  have hRow := Nat.le_of_lt (Nat.lt_of_lt_of_le hArea.2.2.2 area.bottom_le)
  unfold Bounds.Covers
  rw [← and_assoc]
  exact and_congr (within_insets_iff hColumn hWidth hX) (within_insets_iff hRow hHeight hY)

/-- Two insets leave room if there is a cell between them. -/
theorem room_of_between {origin : Int32} {extent first last : UInt16}
    (hSome : (saturate (origin.toInt + first.toNat)).toInt < (saturate ((saturate (origin.toInt + first.toNat)).toInt +
      (UInt16.ofNat (extent.toNat - (saturate16 (first.toNat + last.toNat)).toNat)).toNat)).toInt) :
    first.toNat + last.toNat < extent.toNat := by
  have hExtentMax := extent.toNat_lt
  rw [toNat_inset_extent, toInt_saturate, toInt_saturate] at hSome
  omega

section text

variable {r : Rect} {lines : List Line}

/-- The rectangle of a text covers the corners that it fills. -/
theorem covers_corner_iff (hr : (insetBounds bubble style).clip area = some r) (hWidth : 1 ≤ bubble.width.toNat)
    (hHeight : 1 ≤ bubble.height.toNat) (hCorner : k.At bubble x y) (hArea : area.Covers x y) :
    r.Covers x y ↔ k.Filled style.textInsets bubble.size := by
  have hClip := (insetBounds bubble style).covers_clip area x y
  simp only [hr, Option.mem_def, Option.some.injEq, exists_eq_left', hArea, true_and] at hClip
  exact hClip.trans (covers_inset_corner_iff hWidth hHeight hCorner hArea)

/-- A row of the text leads to a corner only if the corner is reached. -/
theorem reached_of_row (hr : (insetBounds bubble style).clip area = some r) (hHeight : 1 ≤ bubble.height.toNat)
    (hCorner : k.At bubble x y) (hArea : area.Covers x y) (hRow : (r.top ≤ y ∧ y < r.bottom) ∧ r.left ≤ x)
    (hWide : ∃ l ∈ lines, ∃ g ∈ l.glyphs {}, g.width ≠ 1) : k.Reached style.textInsets bubble.size lines := by
  obtain ⟨⟨hTop, hBottom⟩, hLeft⟩ := hRow
  obtain ⟨hX, hY⟩ := hCorner
  obtain ⟨⟨hFirst, hLast, hColumns⟩, hUpper, hLower, -⟩ := Bounds.clipEdges_edges hr
  have hColumn := Nat.le_of_lt (Nat.lt_of_lt_of_le hArea.2.1 area.right_le)
  have hLine := Nat.le_of_lt (Nat.lt_of_lt_of_le hArea.2.2.2 area.bottom_le)
  have hEnd : k.endInset style.textInsets = 0 ∧ style.textInsets.top.toNat + style.textInsets.bottom.toNat <
      bubble.height.toNat := by
    refine (within_insets_iff hLine hHeight hY).mp ⟨?_, ?_⟩
    · show (insetBounds bubble style).top.toInt ≤ _
      omega
    · show _ < (insetBounds bubble style).bottom.toInt
      omega
  have hBetween : (insetBounds bubble style).left.toInt < (insetBounds bubble style).right.toInt := by omega
  have hRoom : style.textInsets.left.toNat + style.textInsets.right.toNat < bubble.width.toNat :=
    room_of_between hBetween
  refine ⟨hEnd, hRoom, ?_⟩
  cases hSide : k.onRight with
  | true => exact .inr ⟨rfl, hWide⟩
  | false =>
    -- a left corner with an inset lies before the rows begin
    left
    unfold Corner.sideInset
    rw [hSide] at hX ⊢
    have hBegin : (saturate (bubble.x.toInt + style.textInsets.left.toNat)).toInt ≤ x := by
      show (insetBounds bubble style).left.toInt ≤ _
      omega
    rw [toInt_saturate] at hBegin
    simp only [Bool.false_eq_true, if_false, ← UInt16.toNat_inj, UInt16.toNat_zero] at hX ⊢
    omega

/-- Where a corner is not reached, the text writes nothing and lays no color. -/
theorem mark_of_not_reached (hr : (insetBounds bubble style).clip area = some r) (hWidth : 1 ≤ bubble.width.toNat)
    (hHeight : 1 ≤ bubble.height.toNat) (hCorner : k.At bubble x y) (hArea : area.Covers x y)
    (hApart : ¬ k.Reached style.textInsets bubble.size lines) (screen : Rect) (base : Style) (c : Cell) :
    Paragraph.mark screen r base lines x y c = c := by
  have hOutside : ¬ r.Covers x y := by
    rw [covers_corner_iff hr hWidth hHeight hCorner hArea]
    rintro ⟨⟨hSide, hColumns⟩, hRows⟩
    exact hApart ⟨hRows, hColumns, .inl hSide⟩
  have hNothing : Paragraph.written screen r lines x y = none := by
    by_cases hRow : (r.top ≤ y ∧ y < r.bottom) ∧ r.left ≤ x
    · refine Paragraph.written_of_narrow (fun l hl g hg => ?_) hOutside
      by_contra hWide
      exact hApart (reached_of_row hr hHeight hCorner hArea hRow ⟨l, hl, g, hg, hWide⟩)
    · exact Paragraph.written_of_outside hRow
  rw [Paragraph.mark, hNothing, if_neg hOutside]
  rfl

end text

/-! ## The picture at a corner -/

namespace View

variable {v : View} {content : Content} {b : Buffer} {now : Nanos}

/-- At a corner of a bubble with a corner radius nothing is drawn but the content, unless the arrow lies there. -/
theorem draw_at_corner (h : v.shownAt now = some bubble) (hCovers : bubble.Covers x y)
    (hCorner : isClippedCorner bubble v.style.cornerRadius x y = true)
    (hArrow : ∀ arrow ∈ v.arrowAt now, ¬ arrow.bounds.Covers x y) (content : Content) (area : Rect) (b : Buffer) :
    ∃ behind : Buffer, behind.area = b.area ∧ behind.cell? x y = b.cell? x y ∧
      (v.draw content area b now).2 =
        ((insetBounds bubble v.style).clip area).elim behind fun r => content.draw r v.style behind := by
  -- each layer leaves the one cell as it is
  have hLasting : Lasting fun x' y' (c c' : Cell) => x' = x ∧ y' = y → c' = c :=
    ⟨fun _ _ _ _ => rfl, fun hFirst hSecond hHere => (hSecond hHere).trans (hFirst hHere)⟩
  have hInside : covers bubble x y = true := by
    simpa [covers, Bounds.Covers, and_assoc] using hCovers
  have hShadow : ∀ shadow ∈ v.style.shadow, Changes b (fun x' y' c c' => x' = x ∧ y' = y → c' = c)
      (drawShadow b area bubble v.style shadow) := by
    intro shadow _
    refine (mapBounds_repaints b area _ _).changes ?_
    rintro _ _ c ⟨rfl, rfl⟩
    rw [hInside, Bool.true_or, if_pos rfl, ite_self]
  have hBody : ∀ behind, Changes behind (fun x' y' c c' => x' = x ∧ y' = y → c' = c)
      (drawBody behind area bubble v.style) := by
    intro behind
    refine (drawBody_repaints behind area bubble v.style).changes ?_
    rintro _ _ c ⟨rfl, rfl⟩
    exact if_neg fun hFilled => Bool.false_ne_true (hFilled.2.symm.trans hCorner)
  have hPoint : ∀ arrow ∈ v.arrowAt now, ∀ body, Changes body (fun x' y' c c' => x' = x ∧ y' = y → c' = c)
      (drawArrow body area arrow.bounds arrow.direction v.style.backgroundColor) := by
    intro arrow hSome body
    refine (drawArrow_changes area arrow.bounds arrow.direction _).imp ?_
    rintro _ _ c c' (hSame | ⟨⟨-, hHere⟩, -⟩) ⟨rfl, rfl⟩
    · exact hSame
    · exact absurd hHere (hArrow arrow hSome)
  rw [draw_eq h]
  have hBehind := (Changes.elim hLasting.refl hShadow).trans (hBody _) hLasting.trans
  have hLayers := hBehind.trans (Changes.elim hLasting.refl fun arrow hSome => hPoint arrow hSome _) hLasting.trans
  exact ⟨_, hLayers.area, hLayers.kept fun c c' hKeeps => hKeeps ⟨rfl, rfl⟩, rfl⟩

/-- What a bubble with a text makes of one of its corners. -/
structure CornerShown (v : View) (content : Content) (lines : List Line) (area : Rect) (bubble : Bounds) (k : Corner)
    (x y : Nat) (b b' : Buffer) : Prop where
  /-- The corner shows what was there before, with the text over it and nothing else. -/
  text : b'.cell? x y = (b.cell? x y).map fun c => ((insetBounds bubble v.style).clip area).elim c fun r =>
    Paragraph.mark b.area r (Content.textStyle v.style) lines x y c
  /-- A corner that the text does not reach is as it was. -/
  kept : ¬ k.Reached v.style.textInsets bubble.size lines → b'.cell? x y = b.cell? x y
  /-- A corner that the text fills has the bubble's background. -/
  lost : k.Filled v.style.textInsets bubble.size → ∀ text, content = .plain text →
    ∀ c ∈ b'.cell? x y, c.bg = v.style.backgroundColor

/-- At the corners of a bubble with a corner radius what is behind is to be seen, unless the text gets there: where the
insets of both sides are zero it does. -/
theorem corner_shown {lines : List Line} (hShown : v.shownAt now = some bubble) (hLines : content.lines? = some lines)
    (hRadius : v.style.cornerRadius ≠ 0) (hWidth : 3 ≤ bubble.width.toNat) (hHeight : 2 ≤ bubble.height.toNat)
    (hCorner : k.At bubble x y) (hArea : area.Covers x y) (hArrow : ∀ arrow ∈ v.arrowAt now, ¬ arrow.bounds.Covers x y)
    (b : Buffer) : v.CornerShown content lines area bubble k x y b (v.draw content area b now).2 := by
  have hColumns : 1 ≤ bubble.width.toNat := by omega
  have hRows : 1 ≤ bubble.height.toNat := by omega
  have hCovers := covers_of_corner hColumns hRows hCorner hArea
  have hClipped := isClippedCorner_of_corner hRadius hWidth hHeight hCorner hArea
  obtain ⟨behind, hSame, hCell, hDrawn⟩ := draw_at_corner hShown hCovers hClipped hArrow content area b
  have hText : (v.draw content area b now).2.cell? x y = (b.cell? x y).map fun c =>
      ((insetBounds bubble v.style).clip area).elim c fun r =>
        Paragraph.mark b.area r (Content.textStyle v.style) lines x y c := by
    rw [hDrawn]
    cases hClip : (insetBounds bubble v.style).clip area with
    | none => exact hCell.trans Option.map_id'.symm
    | some r =>
      rw [Option.elim_some, Content.draw_of_lines hLines (Bounds.isEmpty_of_clip hClip),
        (Paragraph.draw_repaints _ _ _ _).cell?_eq, hSame, hCell]
      rfl
  refine ⟨hText, fun hApart => ?_, ?_⟩
  · rw [hText]
    cases hClip : (insetBounds bubble v.style).clip area with
    | none => exact Option.map_id'
    | some r =>
      simp only [Option.elim_some, mark_of_not_reached hClip hColumns hRows hCorner hArea hApart]
      exact Option.map_id'
  · -- a plain text lays its background over its whole rectangle, letters or none
    rintro hFilled text rfl c hc
    obtain rfl := Option.some.inj hLines
    have hIn : (insetBounds bubble v.style).Covers x y :=
      (covers_inset_corner_iff hColumns hRows hCorner hArea).mpr hFilled
    obtain ⟨r, hr, hCoversCorner⟩ := ((insetBounds bubble v.style).covers_clip area x y).mpr ⟨hArea, hIn⟩
    rw [hDrawn, Option.mem_def.mp hr, Option.elim_some, Content.draw_of_lines rfl (Bounds.isEmpty_of_clip hr)] at hc
    obtain ⟨c', -, hBg⟩ := (Paragraph.draw_background (Content.linesOf_background text)).reached hc
    rw [hBg, if_pos hCoversCorner]
    rfl

/-- A corner with an inset on one of its sides, in front of a shadow and with an arrow below. -/
theorem corner_shown_inset :
    let v : View := { style := { BubbleStyle.white with textInsets := ⟨0, 1, 1, 1⟩ }, margin := 0,
                      preferredWidth := none, transition := 0, visible := true,
                      frame := some (.settled ⟨2, 1, 4, 3⟩ 0), arrow := some (.settled ⟨3, 4, 2, 1⟩ 0),
                      direction := some .down }
    let content : Content := .plain "Hi"
    let area : Rect := ⟨0, 0, 9, 6⟩
    let k : Corner := ⟨false, false⟩
    (v.shownAt 5 = some ⟨2, 1, 4, 3⟩ ∧ content.lines? = some (linesOf "Hi") ∧ v.style.cornerRadius ≠ 0 ∧
      k.At ⟨2, 1, 4, 3⟩ 2 1 ∧ area.Covers 2 1 ∧ ∀ arrow ∈ v.arrowAt 5, ¬ arrow.bounds.Covers 2 1) ∧
      ¬ k.Reached v.style.textInsets ⟨4, 3⟩ (linesOf "Hi") ∧
      v.CornerShown content (linesOf "Hi") area ⟨2, 1, 4, 3⟩ k 2 1 (.blank area)
        (v.draw content area (.blank area) 5).2 := by
  intro v content area k
  have hShown : v.shownAt 5 = some ⟨2, 1, 4, 3⟩ := congrArg some (Motion.Tween.valueAt_settled _ _ _)
  have hAt : v.arrowAt 5 = some ⟨⟨3, 4, 2, 1⟩, .down⟩ :=
    congrArg (fun bounds => some (ArrowLayout.mk bounds .down)) (Motion.Tween.valueAt_settled _ _ _)
  have hArrow : ∀ arrow ∈ v.arrowAt 5, ¬ arrow.bounds.Covers 2 1 := by
    rw [hAt]
    rintro arrow ⟨⟩
    decide
  have hCorner : k.At ⟨2, 1, 4, 3⟩ 2 1 := by decide
  have hArea : area.Covers 2 1 := by decide
  have hApart : ¬ k.Reached v.style.textInsets ⟨4, 3⟩ (linesOf "Hi") := by
    rintro ⟨-, -, hSide | ⟨hRight, -⟩⟩
    · exact absurd hSide (by decide)
    · cases hRight
  exact ⟨⟨hShown, rfl, by decide, hCorner, hArea, hArrow⟩, hApart,
    corner_shown hShown rfl (by decide) (by decide) (by decide) hCorner hArea hArrow (.blank area)⟩

/-- Without insets the corners have the colors of the text, also where it has no letter. -/
theorem corner_overdrawn :
    let v : View := { style := { textInsets := .uniform 0 }, margin := 0, preferredWidth := none, transition := 0,
                      visible := true, frame := some (.settled ⟨2, 1, 5, 3⟩ 0) }
    let area : Rect := ⟨0, 0, 9, 5⟩
    let b := Buffer.blank area
    (v.shownAt 5 = some ⟨2, 1, 5, 3⟩ ∧ v.style.cornerRadius ≠ 0 ∧ v.arrowAt 5 = none ∧
      Corner.At ⟨false, false⟩ ⟨2, 1, 5, 3⟩ 2 1 ∧ area.Covers 2 1) ∧
      (v.draw (.plain "\nHello\n\n") area b 5).2.cell? 2 1 ≠ b.cell? 2 1 := by
  intro v area b
  have hShown : v.shownAt 5 = some ⟨2, 1, 5, 3⟩ := congrArg some (Motion.Tween.valueAt_settled _ _ _)
  refine ⟨⟨hShown, by decide, rfl, by decide, by decide⟩, ?_⟩
  rw [draw_eq hShown]
  decide +kernel

end View

end Bubble

end GuidedTour
