import GuidedTour.Proofs.Bubble.Placement

/-!
# Where an arrow comes to lie

An arrow is placed after its bubble and against it. Above and below it fills the gap between the bubble and the anchor
up to the rows that are to stay free. To the sides it goes to the middle of the anchor, as far as two low inequalities
let it: it is to stay the corner radius away from either side of the bubble.

Where the bubble is wide enough for that, both are kept. Where it is not, the solver keeps the first one and drops the
second, so the arrow is held on the left but not on the right: if the margins have pushed the bubble to the left of its
anchor, the arrow follows the anchor past the right end of the bubble, although there would be room for it below or
above the bubble.

Main results:

* `settle_aimed` - a preferred origin between two low inequalities that may shut each other out.
* `layout_pointing` - everything about the arrow of a highlighted step.
* `arrow_fits` - the arrow between bubble and anchor, and between the corners of a bubble that is wide enough.
* `arrow_overhang` - when the arrow stays on its bubble.
* `arrow_beside_bubble` - an arrow that does not.
-/

namespace GuidedTour

namespace Layout

/-- A preferred origin between two low inequalities. The first one is always kept, the second one if they can be kept
together. -/
theorem settle_aimed (low high wish : Int32) :
    settle [⟨.greaterOrEqual, .low, low⟩, ⟨.lessOrEqual, .low, high⟩, ⟨.equal, .low, wish⟩] =
      if low ≤ high then min (max wish low) high else max wish low := by
  have hNarrow : (⟨none, none⟩ : Span).narrow
      [⟨.greaterOrEqual, .low, low⟩, ⟨.lessOrEqual, .low, high⟩, ⟨.equal, .low, wish⟩] =
      if decide (low ≤ high) = true then ⟨some low, some high⟩ else ⟨some low, none⟩ := rfl
  show Span.clamp (Span.narrow ⟨none, none⟩ _) wish = _
  rw [hNarrow]
  by_cases hRoom : low ≤ high
  · rw [if_pos (decide_eq_true hRoom), if_pos hRoom]
    rfl
  · rw [if_neg (by rw [decide_eq_true_eq]; exact hRoom), if_neg hRoom]
    rfl

theorem requests_arrow (ctx : Context) (t : Target) (location : TextLocation) (style : BubbleStyle) (extent : UInt16) :
    ctx.requests (arrowConstraints t location style) .horizontal extent =
        [ctx.asked extent (Constraint.atLeast .left (.bubble .left) (.ofInt style.cornerRadius.toNat)).low,
          ctx.asked extent (Constraint.atMost .right (.bubble .right) (.ofInt (-(style.cornerRadius.toNat : Int)))).low,
          ctx.asked extent (t.constraint .centerX .centerX 0).low] ∧
      ctx.requests (arrowConstraints t location style) .vertical extent = [ctx.asked extent
        (match location with
          | .above => .equal .top (.bubble .bottom) 0
          | .below => .equal .bottom (.bubble .top) 0)] := by
  cases location <;> exact ⟨rfl, rfl⟩

/-- The edges of an anchor are near the screen. -/
theorem edge_anchor_le {t : Target} {ctx : Context} {anchor : Bounds} (hAnchor : t.resolve ctx = .ok anchor)
    (edge : Edge) : 0 ≤ (anchor.edge edge).toInt ∧ (anchor.edge edge).toInt ≤ 262140 := by
  obtain ⟨value, -, hSum, ⟨hValueLow, hValueHigh⟩, hConstantLow, hConstantHigh⟩ := resolve_reference hAnchor edge
  omega

end Layout

namespace Bubble

open Layout

/-! ## The arrow of a bubble -/

/-- An arrow between a bubble and its anchor: it touches the near edge of the bubble, and leaves so many rows between
its other end and the anchor. -/
def Attached (location : TextLocation) (anchor bubble arrow : Bounds) (rows : UInt16) : Prop :=
  match location with
  | .above => arrow.top = bubble.bottom ∧ arrow.bottom.toInt = anchor.top.toInt - rows.toNat
  | .below => arrow.bottom = bubble.top ∧ arrow.top.toInt = anchor.bottom.toInt + rows.toNat

/-- The arrow points to the side on which the anchor lies. -/
def ArrowLayout.PointsAt (arrow : ArrowLayout) (anchor : Bounds) : Prop :=
  match arrow.direction with
  | .up => anchor.bottom ≤ arrow.bounds.top
  | .down => arrow.bounds.bottom ≤ anchor.top

/-- An arrow keeps a distance from the sides of its bubble, and of all columns where it would it begins in the one that
is nearest to where it would have its middle on the middle of the anchor. -/
structure Centred (radius : UInt16) (middle : Int32) (bubble arrow : Bounds) : Prop where
  inside  : bubble.left.toInt + radius.toNat ≤ arrow.left.toInt ∧
    arrow.right.toInt ≤ bubble.right.toInt - radius.toNat
  nearest : ∀ x : Int, bubble.left.toInt + radius.toNat ≤ x →
    x + arrow.width.toNat ≤ bubble.right.toInt - radius.toNat → x ≠ arrow.left.toInt →
      (arrow.left.toInt - (middle.toInt - arrow.width.toNat / 2)).natAbs <
        (x - (middle.toInt - arrow.width.toNat / 2)).natAbs

/-- Every column of some bounds is one of the others. -/
def ColumnsWithin (inner outer : Bounds) : Prop :=
  ∀ x : Int, inner.left.toInt ≤ x → x < inner.right.toInt → outer.left.toInt ≤ x ∧ x < outer.right.toInt

/-- The arrow that is placed with a bubble. -/
structure Pointing (style : BubbleStyle) (location : TextLocation) (anchor bubble : Bounds) (arrow : ArrowLayout) :
    Prop where
  size       : arrow.bounds.size = style.arrowSize
  direction  : arrow.direction = .ofLocation location
  attached   : Attached location anchor bubble arrow.bounds style.yOffset
  /-- It begins where its middle is on the middle of the anchor, or as near to it as the inequalities that are kept
  allow. -/
  begins     : arrow.bounds.left.toInt =
    if style.arrowSize.width.toNat + 2 * style.cornerRadius.toNat ≤ bubble.width.toNat then
      min (max (anchor.centerX.toInt - style.arrowSize.width.toNat / 2)
          (bubble.left.toInt + style.cornerRadius.toNat))
        (bubble.right.toInt - style.cornerRadius.toNat - style.arrowSize.width.toNat)
    else max (anchor.centerX.toInt - style.arrowSize.width.toNat / 2) (bubble.left.toInt + style.cornerRadius.toNat)
  ends       : arrow.bounds.right.toInt = arrow.bounds.left.toInt + style.arrowSize.width.toNat
  bubbleEnds : bubble.right.toInt = bubble.left.toInt + bubble.width.toNat

namespace View

/-- A bubble between margins is near the screen. -/
theorem Fits.near {container : Rect} {margin : UInt16} {middle : Int32} {b : Bounds}
    (h : Fits container margin middle b) : (0 ≤ b.left.toInt ∧ b.left.toInt ≤ 196605) ∧
      b.right.toInt = b.left.toInt + b.width.toNat := by
  have hMargin := margin.toNat_lt
  have hWidth := b.width.toNat_lt
  have hLow := Int32.le_toInt b.x
  have hHigh := Int32.toInt_lt b.x
  have hLeft : 0 ≤ (Bounds.ofRect container).left.toInt ∧ (Bounds.ofRect container).left.toInt ≤ 131070 :=
    edge_ofRect_le container .left
  have hRight : 0 ≤ (Bounds.ofRect container).right.toInt ∧ (Bounds.ofRect container).right.toInt ≤ 131070 :=
    edge_ofRect_le container .right
  have hEnd : b.right.toInt = max (-0x80000000) (min (b.left.toInt + b.width.toNat) 0x7FFFFFFF) := toInt_saturate _
  by_cases hWide : 2 * margin.toNat ≤ container.width.toNat
  · obtain ⟨hFirst, hLast⟩ := h.inside hWide
    omega
  · obtain ⟨hNone, hFirst⟩ := h.squeezed (by omega)
    have hZero : b.width.toNat = 0 := by rw [hNone]; rfl
    omega

/-- Where every reference resolves, an arrow is placed against the bubble that was placed before. -/
theorem place_with_arrow {v : View} (size : CellSize) {ctx : Context} {constraints : List Constraint}
    {direction : ArrowDirection} (hArrow : v.constraints.arrow = some (constraints, direction))
    (hBubble : ctx.Resolves v.constraints.bubble)
    (hResolves : ∀ b, { ctx with bubble := some b }.Resolves constraints) :
    ∃ b there, v.place size ctx = .ok ⟨b, some ⟨there, direction⟩⟩ ∧ b.size = size ∧
      (∀ axis, b.origin axis = settle (ctx.requests v.constraints.bubble axis (size.extent axis))) ∧
      there.size = v.style.arrowSize ∧ ∀ axis, there.origin axis =
        settle ({ ctx with bubble := some b }.requests constraints axis (v.style.arrowSize.extent axis)) := by
  obtain ⟨b, hSolved, hSize, hOrigin⟩ := solve_ok size hBubble
  obtain ⟨there, hThere, hArrowSize, hArrowOrigin⟩ := solve_ok v.style.arrowSize (hResolves b)
  refine ⟨b, there, ?_, hSize, hOrigin, hArrowSize, hArrowOrigin⟩
  unfold place
  rw [hSolved, hArrow]
  show (do
    let bounds ← solve constraints v.style.arrowSize { ctx with bubble := some b }
    return (⟨b, some ⟨bounds, direction⟩⟩ : BubbleLayout)) = _
  rw [hThere]
  rfl

section Arrows

variable {ctx : Context} {t : Target} {location : TextLocation} {anchor b there : Bounds} {style : BubbleStyle}

/-- The first and the last origin at which an arrow keeps its distance from the sides of a bubble near the screen. -/
theorem asked_sides (ctx : Context) (radius width : UInt16) (hNear : 0 ≤ b.left.toInt ∧ b.left.toInt ≤ 196605)
    (hEnd : b.right.toInt = b.left.toInt + b.width.toNat) : ∃ low high,
    { ctx with bubble := some b }.asked width (Constraint.atLeast .left (.bubble .left) (.ofInt radius.toNat)).low =
        ⟨.greaterOrEqual, .low, low⟩ ∧
      { ctx with bubble := some b }.asked width
          (Constraint.atMost .right (.bubble .right) (.ofInt (-(radius.toNat : Int)))).low =
        ⟨.lessOrEqual, .low, high⟩ ∧
      low.toInt = b.left.toInt + radius.toNat ∧ high.toInt = b.right.toInt - radius.toNat - width.toNat := by
  have hRadius := radius.toNat_lt
  have hWidth := width.toNat_lt
  have hBubble := b.width.toNat_lt
  have hPlus : (Int32.ofInt radius.toNat).toInt = radius.toNat := toInt_ofNat16 radius
  have hMinus : (Int32.ofInt (-(radius.toNat : Int))).toInt = -radius.toNat := toInt_neg_ofNat16 radius
  refine ⟨saturate (b.left.toInt + (Int32.ofInt radius.toNat).toInt),
    saturate ((saturate (b.right.toInt + (Int32.ofInt (-(radius.toNat : Int))).toInt)).toInt - width.toNat),
    rfl, rfl, ?_, ?_⟩
  · rw [hPlus, toInt_saturate]
    omega
  · rw [hMinus, toInt_saturate, toInt_saturate]
    omega

/-- The column in which an arrow begins. -/
theorem arrow_begins (hAnchor : t.resolve ctx = .ok anchor) (hNear : 0 ≤ b.left.toInt ∧ b.left.toInt ≤ 196605)
    (hEnd : b.right.toInt = b.left.toInt + b.width.toNat)
    (hOrigin : there.x = settle ({ ctx with bubble := some b }.requests (arrowConstraints t location style) .horizontal
      style.arrowSize.width)) : there.left.toInt =
    if style.arrowSize.width.toNat + 2 * style.cornerRadius.toNat ≤ b.width.toNat then
      min (max (anchor.centerX.toInt - style.arrowSize.width.toNat / 2) (b.left.toInt + style.cornerRadius.toNat))
        (b.right.toInt - style.cornerRadius.toNat - style.arrowSize.width.toNat)
    else max (anchor.centerX.toInt - style.arrowSize.width.toNat / 2) (b.left.toInt + style.cornerRadius.toNat) := by
  have hWidth := style.arrowSize.width.toNat_lt
  have hMiddle : 0 ≤ anchor.centerX.toInt ∧ anchor.centerX.toInt ≤ 262140 := edge_anchor_le hAnchor .centerX
  have hWish : (originFor .centerX anchor.centerX style.arrowSize.width).toInt =
      anchor.centerX.toInt - style.arrowSize.width.toNat / 2 := by
    rw [toInt_originFor_centerX]
    omega
  obtain ⟨low, high, hAtLeast, hAtMost, hLow, hHigh⟩ :=
    asked_sides ctx style.cornerRadius style.arrowSize.width hNear hEnd
  rw [(requests_arrow _ t location style style.arrowSize.width).1, hAtLeast, hAtMost,
    asked_middle ((resolve_withBubble t ctx b).trans hAnchor), settle_aimed] at hOrigin
  -- the two limits can be kept together if the bubble is as wide as the arrow and two corners
  have hRoom : low ≤ high ↔ style.arrowSize.width.toNat + 2 * style.cornerRadius.toNat ≤ b.width.toNat := by
    rw [Int32.le_iff_toInt_le]
    omega
  show there.x.toInt = _
  rw [hOrigin]
  by_cases hWide : style.arrowSize.width.toNat + 2 * style.cornerRadius.toNat ≤ b.width.toNat
  · rw [if_pos (hRoom.mpr hWide), if_pos hWide, toInt_min, toInt_max, hWish, hLow, hHigh]
  · rw [if_neg (hRoom.not.mpr hWide), if_neg hWide, toInt_max, hWish, hLow]

/-- The rows of an arrow, below or above a bubble that keeps the gap. -/
theorem arrow_attached (hAnchor : t.resolve ctx = .ok anchor) (hStacked : Stacked location anchor b style.highlightGap)
    (hSize : there.size = style.arrowSize)
    (hOrigin : there.y = settle ({ ctx with bubble := some b }.requests (arrowConstraints t location style) .vertical
      style.arrowSize.height)) : Attached location anchor b there style.yOffset := by
  have hHeight := style.arrowSize.height.toNat_lt
  have hRows := style.yOffset.toNat_lt
  have hGap := toInt_highlightGap style
  have hTop : 0 ≤ anchor.top.toInt ∧ anchor.top.toInt ≤ 262140 := edge_anchor_le hAnchor .top
  have hBottom : 0 ≤ anchor.bottom.toInt ∧ anchor.bottom.toInt ≤ 262140 := edge_anchor_le hAnchor .bottom
  have hExtent : there.height = style.arrowSize.height := congrArg CellSize.height hSize
  have hEnd : there.bottom.toInt =
      max (-0x80000000) (min (there.top.toInt + style.arrowSize.height.toNat) 0x7FFFFFFF) := by
    rw [← hExtent]
    exact toInt_saturate _
  -- a constraint without a distance asks for the edge of the bubble itself
  have hEdge : ∀ value : Int32, saturate (value.toInt + (0 : Int32).toInt) = value := by
    intro value
    rw [Int32.toInt_zero, Int.add_zero, saturate_toInt]
  rw [(requests_arrow _ t location style style.arrowSize.height).2] at hOrigin
  cases location with
  | above =>
    have hBubble : b.bottom.toInt = anchor.top.toInt - style.highlightGap.toInt := hStacked
    have hTouch : there.top = b.bottom := hOrigin.trans (hEdge b.bottom)
    refine ⟨hTouch, ?_⟩
    rw [hTouch] at hEnd
    omega
  | below =>
    have hBubble : b.top.toInt = anchor.bottom.toInt + style.highlightGap.toInt := hStacked
    have hAsked : there.y = originFor .bottom b.top style.arrowSize.height :=
      hOrigin.trans (congrArg (originFor .bottom · style.arrowSize.height) (hEdge b.top))
    rw [← hExtent] at hAsked
    have hTouch : there.bottom = b.top := by
      refine edge_eq_target (e := .bottom) hAsked ?_
      show -0x80000000 + (there.height.toNat : Int) ≤ b.top.toInt
      rw [hExtent]
      omega
    refine ⟨hTouch, ?_⟩
    rw [hTouch] at hEnd
    omega

end Arrows

section Pointed

variable {v : View} {step : Step} {ctx : Context} {anchor : Anchor} {location : TextLocation} {bounds : Bounds}

/-- In every frame of a highlighted step whose anchor resolves, the bubble is placed with an arrow. -/
theorem layout_pointing (hShows : v.Shows step.kind) (hKind : step.kind = .highlighted anchor location)
    (hAnchor : (Target.ofAnchor anchor).resolve ctx = .ok bounds) (now : Nanos) :
    ∃ b arrow, (v.layout step ctx now).2 = .ok ⟨b, some arrow⟩ ∧ Pointing v.style location bounds b arrow := by
  have hAim : Aim ctx step.kind bounds.centerX := by
    rw [hKind]
    exact .anchor hAnchor
  have hConstraints := stepConstraints_highlighted hKind v.style v.margin ctx
  have hOwn : (stepConstraints step v.style v.margin ctx).arrow =
      some (arrowConstraints (.ofAnchor anchor) location v.style, .ofLocation location) := by
    rw [hConstraints]
    rfl
  obtain ⟨hBubble, hArrow⟩ := hAim.resolves v.style v.margin
  obtain ⟨b, there, hPlaced, hSize, hOrigin, hArrowSize, hArrowOrigin⟩ := place_with_arrow
    (v := { v with constraints := stepConstraints step v.style v.margin ctx })
    (v.bubbleSize step.content ctx.container) hOwn hBubble (hArrow _ (by rw [hOwn]; rfl))
  -- the bubble first
  obtain ⟨hRoom, hNarrow⟩ := v.bubbleSize_width step.content ctx.container
  rw [← hSize] at hOrigin hRoom hNarrow
  have hFits := fits_of_settle (hAim.requests v.style v.margin b.width) (hOrigin .horizontal) hRoom hNarrow
  have hVertical := hOrigin .vertical
  dsimp only at hVertical
  rw [hConstraints] at hVertical
  have hStacked := stacked_of_settle hAnchor v.style v.margin hVertical
  obtain ⟨hNear, hEnd⟩ := hFits.near
  -- and then the arrow against it
  have hBegins := arrow_begins hAnchor hNear hEnd (hArrowOrigin .horizontal)
  have hAttached := arrow_attached hAnchor hStacked hArrowSize (hArrowOrigin .vertical)
  refine ⟨b, ⟨there, .ofLocation location⟩, (layout_answer hShows hAim.steady ctx now).trans hPlaced,
    hArrowSize, rfl, hAttached, hBegins, ?_, hEnd⟩
  have hWidth : there.width = v.style.arrowSize.width := congrArg CellSize.width hArrowSize
  have hMiddle : 0 ≤ bounds.centerX.toInt ∧ bounds.centerX.toInt ≤ 262140 := edge_anchor_le hAnchor .centerX
  have hArrowWidth := v.style.arrowSize.width.toNat_lt
  have hRadius := v.style.cornerRadius.toNat_lt
  have hBubbleWidth := b.width.toNat_lt
  have hStart : 0 ≤ there.left.toInt + 131070 ∧ there.left.toInt ≤ 327675 := by
    rw [hBegins]
    split <;> omega
  show (saturate (there.left.toInt + there.width.toNat)).toInt = there.left.toInt + v.style.arrowSize.width.toNat
  rw [hWidth, toInt_saturate]
  omega

end Pointed

end View

/-! ## What is seen of the arrow -/

namespace Pointing

variable {style : BubbleStyle} {location : TextLocation} {anchor bubble : Bounds} {arrow : ArrowLayout}

theorem width (h : Pointing style location anchor bubble arrow) : arrow.bounds.width = style.arrowSize.width :=
  congrArg CellSize.width h.size

/-- The free rows are between the tip and the anchor, so the arrow points at the anchor. -/
theorem pointsAt (h : Pointing style location anchor bubble arrow) : arrow.PointsAt anchor := by
  have hAttached := h.attached
  unfold ArrowLayout.PointsAt
  rw [h.direction]
  cases location with
  | above =>
    show arrow.bounds.bottom ≤ anchor.top
    obtain ⟨-, hRows⟩ := hAttached
    rw [Int32.le_iff_toInt_le]
    omega
  | below =>
    show anchor.bottom ≤ arrow.bounds.top
    obtain ⟨-, hRows⟩ := hAttached
    rw [Int32.le_iff_toInt_le]
    omega

/-- Between the corners of a bubble that is wide enough the arrow comes as near to the middle as it can. -/
theorem centred (h : Pointing style location anchor bubble arrow)
    (hWide : style.arrowSize.width.toNat + 2 * style.cornerRadius.toNat ≤ bubble.width.toNat) :
    Centred style.cornerRadius anchor.centerX bubble arrow.bounds := by
  have hBegins := h.begins
  have hEnds := h.ends
  have hBubble := h.bubbleEnds
  rw [if_pos hWide] at hBegins
  refine ⟨⟨by omega, by omega⟩, ?_⟩
  rw [h.width]
  intro x hFirst hLast hOther
  omega

/-- The arrow never comes off on the left, and on the right it stays on the bubble under these conditions only. -/
theorem within_iff (h : Pointing style location anchor bubble arrow) :
    bubble.left.toInt + style.cornerRadius.toNat ≤ arrow.bounds.left.toInt ∧
      (ColumnsWithin arrow.bounds bubble ↔ style.arrowSize.width = 0 ∨
        style.arrowSize.width.toNat + 2 * style.cornerRadius.toNat ≤ bubble.width.toNat ∨
        style.arrowSize.width.toNat + style.cornerRadius.toNat ≤ bubble.width.toNat ∧
          anchor.centerX.toInt - style.arrowSize.width.toNat / 2 + style.arrowSize.width.toNat ≤
            bubble.right.toInt) := by
  have hBegins := h.begins
  have hEnds := h.ends
  have hBubble := h.bubbleEnds
  have hFirst : bubble.left.toInt + style.cornerRadius.toNat ≤ arrow.bounds.left.toInt := by
    rw [hBegins]
    split <;> omega
  refine ⟨hFirst, ?_⟩
  have hNone : style.arrowSize.width = 0 ↔ style.arrowSize.width.toNat = 0 := by
    rw [← UInt16.toNat_inj, UInt16.toNat_zero]
  rw [hNone]
  constructor
  · -- the last column of the arrow, if it has one, decides
    intro hWithin
    by_cases hEmpty : style.arrowSize.width.toNat = 0
    · exact .inl hEmpty
    · have hLast := (hWithin (arrow.bounds.right.toInt - 1) (by omega) (by omega)).2
      split at hBegins
      · next hWide => exact .inr (.inl hWide)
      · exact .inr (.inr ⟨by omega, by omega⟩)
  · intro hRoom x hLeft hRight
    split at hBegins <;> omega

end Pointing

namespace View

section Pointed

variable {v : View} {step : Step} {ctx : Context} {anchor : Anchor} {location : TextLocation} {bounds : Bounds}

/--
**The place of an arrow.** In every frame of a highlighted step whose anchor resolves, the bubble is placed together with
an arrow of the size that its style asks for. The arrow touches the near edge of the bubble, leaves exactly the rows of
the style between its other end and the anchor, and points at the anchor. If the bubble is as wide as the arrow and two
corners, the arrow keeps the corner radius from both sides, and begins in the column nearest to the one that has its
middle on the middle of the anchor.
-/
theorem arrow_fits (hShows : v.Shows step.kind) (hKind : step.kind = .highlighted anchor location)
    (hAnchor : (Target.ofAnchor anchor).resolve ctx = .ok bounds) (now : Nanos) :
    ∃ b arrow, (v.layout step ctx now).2 = .ok ⟨b, some arrow⟩ ∧ arrow.bounds.size = v.style.arrowSize ∧
      Attached location bounds b arrow.bounds v.style.yOffset ∧
      arrow.direction = .ofLocation location ∧ arrow.PointsAt bounds ∧
      (v.style.arrowSize.width.toNat + 2 * v.style.cornerRadius.toNat ≤ b.width.toNat →
        Centred v.style.cornerRadius bounds.centerX b arrow.bounds) := by
  obtain ⟨b, arrow, hLayout, hPointing⟩ := layout_pointing hShows hKind hAnchor now
  exact ⟨b, arrow, hLayout, hPointing.size, hPointing.attached, hPointing.direction, hPointing.pointsAt,
    hPointing.centred⟩

/-- A bubble that is pushed to the left of its anchor by the margin has its arrow two cells from its right side. -/
theorem arrow_fits_corner :
    let v : View := { style := { cornerRadius := 2 }, margin := 4, preferredWidth := none, transition := 0 }
    let step : Step := .below (.rect ⟨74, 2, 6, 1⟩)
      (.custom { preferredSize := fun _ => ⟨26, 1⟩, draw := fun _ _ b => b })
    let ctx : Context := .of ⟨0, 0, 80, 24⟩ .empty
    v.Shows step.kind ∧ step.kind = .highlighted (.rect ⟨74, 2, 6, 1⟩) .below ∧
      (Target.ofAnchor (.rect ⟨74, 2, 6, 1⟩)).resolve ctx = .ok ⟨74, 2, 6, 1⟩ ∧
      ∃ b arrow, (v.layout step ctx 0).2 = .ok ⟨b, some arrow⟩ ∧ b = ⟨46, 5, 30, 3⟩ ∧
        v.style.arrowSize.width.toNat + 2 * v.style.cornerRadius.toNat ≤ b.width.toNat ∧
        arrow.bounds.right.toInt ≤ 74 ∧ arrow.bounds.bottom = b.top ∧ arrow.direction = .up := by
  intro v step ctx
  have hShows : v.Shows step.kind := .fresh ..
  have hAnchor : (Target.ofAnchor (.rect ⟨74, 2, 6, 1⟩)).resolve ctx = .ok ⟨74, 2, 6, 1⟩ := by decide
  obtain ⟨b, arrow, hLayout, -, hAttached, hDirection, -, hCentred⟩ := arrow_fits hShows rfl hAnchor 0
  obtain rfl : b = ⟨46, 5, 30, 3⟩ := by
    have hValue : (v.layout step ctx 0).2 = .ok ⟨⟨46, 5, 30, 3⟩, some ⟨⟨71, 4, 3, 1⟩, .up⟩⟩ := by
      decide +kernel
    exact congrArg BubbleLayout.bubble (Except.ok.inj (hLayout.symm.trans hValue))
  refine ⟨hShows, rfl, hAnchor, _, arrow, hLayout, rfl, by decide, ?_, hAttached.1, hDirection⟩
  exact Int.le_trans (hCentred (by decide)).inside.2 (by decide)

/--
**The arrow and the sides of its bubble.** In every frame of a highlighted step whose anchor resolves, the arrow begins
at least the corner radius behind the left side of the bubble. Its columns are columns of the bubble just if it has
none, or the bubble is as wide as the arrow and two corners, or it is as wide as the arrow and one corner and the middle
of the anchor is not too far to the right of it.
-/
theorem arrow_overhang (hShows : v.Shows step.kind) (hKind : step.kind = .highlighted anchor location)
    (hAnchor : (Target.ofAnchor anchor).resolve ctx = .ok bounds) (now : Nanos) :
    ∃ b arrow, (v.layout step ctx now).2 = .ok ⟨b, some arrow⟩ ∧
      b.left.toInt + v.style.cornerRadius.toNat ≤ arrow.bounds.left.toInt ∧
      (ColumnsWithin arrow.bounds b ↔ v.style.arrowSize.width = 0 ∨
        v.style.arrowSize.width.toNat + 2 * v.style.cornerRadius.toNat ≤ b.width.toNat ∨
        v.style.arrowSize.width.toNat + v.style.cornerRadius.toNat ≤ b.width.toNat ∧
          bounds.centerX.toInt - v.style.arrowSize.width.toNat / 2 + v.style.arrowSize.width.toNat ≤
            b.right.toInt) := by
  obtain ⟨b, arrow, hLayout, hPointing⟩ := layout_pointing hShows hKind hAnchor now
  obtain ⟨hLeft, hWithin⟩ := hPointing.within_iff
  exact ⟨b, arrow, hLayout, hLeft, hWithin⟩

/-- A bubble with room for the arrow and one corner, right below its anchor. -/
theorem arrow_overhang_narrow :
    let v : View := { style := { cornerRadius := 2 }, margin := 4, preferredWidth := none, transition := 0 }
    let step : Step := .below (.rect ⟨40, 2, 6, 1⟩) (.plain "Hi")
    let ctx : Context := .of ⟨0, 0, 80, 24⟩ .empty
    v.Shows step.kind ∧ step.kind = .highlighted (.rect ⟨40, 2, 6, 1⟩) .below ∧
      (Target.ofAnchor (.rect ⟨40, 2, 6, 1⟩)).resolve ctx = .ok ⟨40, 2, 6, 1⟩ ∧
      ∃ b arrow, (v.layout step ctx 0).2 = .ok ⟨b, some arrow⟩ ∧ b = ⟨40, 5, 6, 3⟩ ∧ ColumnsWithin arrow.bounds b := by
  intro v step ctx
  have hShows : v.Shows step.kind := .fresh ..
  have hAnchor : (Target.ofAnchor (.rect ⟨40, 2, 6, 1⟩)).resolve ctx = .ok ⟨40, 2, 6, 1⟩ := by decide
  obtain ⟨b, arrow, hLayout, -, hWithin⟩ := arrow_overhang hShows rfl hAnchor 0
  obtain rfl : b = ⟨40, 5, 6, 3⟩ := by
    have hValue : (v.layout step ctx 0).2 = .ok ⟨⟨40, 5, 6, 3⟩, some ⟨⟨42, 4, 3, 1⟩, .up⟩⟩ := by
      decide +kernel
    exact congrArg BubbleLayout.bubble (Except.ok.inj (hLayout.symm.trans hValue))
  exact ⟨hShows, rfl, hAnchor, _, arrow, hLayout, rfl, hWithin.mpr (.inr (.inr (by decide)))⟩

/-- The same bubble below an anchor at the right side of the container: the margin keeps it to the left of the anchor,
and its arrow, which is narrower than it is, stands beside it. -/
theorem arrow_beside_bubble :
    let v : View := { style := { cornerRadius := 2 }, margin := 4, preferredWidth := none, transition := 0 }
    let step : Step := .below (.rect ⟨74, 2, 6, 1⟩) (.plain "Hi")
    let ctx : Context := .of ⟨0, 0, 80, 24⟩ .empty
    v.Shows step.kind ∧ (Target.ofAnchor (.rect ⟨74, 2, 6, 1⟩)).resolve ctx = .ok ⟨74, 2, 6, 1⟩ ∧
      ∃ b arrow, (v.layout step ctx 0).2 = .ok ⟨b, some arrow⟩ ∧ arrow.bounds.width ≤ b.width ∧
        b.right ≤ arrow.bounds.left ∧ ¬ ColumnsWithin arrow.bounds b := by
  intro v step ctx
  have hValue : (v.layout step ctx 0).2 = .ok ⟨⟨70, 5, 6, 3⟩, some ⟨⟨76, 4, 3, 1⟩, .up⟩⟩ := by
    decide +kernel
  refine ⟨.fresh .., by decide, _, _, hValue, by decide, by decide, ?_⟩
  -- the first column of the arrow is the one behind the bubble
  intro hWithin
  exact absurd (hWithin 76 (by decide) (by decide)).2 (by decide)

end Pointed

end View

end Bubble

end GuidedTour
