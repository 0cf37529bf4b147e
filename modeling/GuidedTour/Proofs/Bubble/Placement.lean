import GuidedTour.Proofs.Bubble.Destination
import GuidedTour.Proofs.Screen.Coverage

/-!
# Where a bubble comes to lie

Text is wrapped so that a bubble never needs more columns than the margins leave, so the two margins can always be
kept together, and between them the bubble lies as close to the middle of its target as it can. In a container that
is narrower than the margins nothing is left of it but a position. Above and below, nothing but the target counts.

Main results:

* `bubbleSize_width` - a bubble fits between the margins, or has no width.
* `target_constraint` - a constraint to a target is measured from the target's own bounds, in whichever way the
  target is given.
* `place_ok` - where every reference resolves, a bubble and its arrow are placed.
* `layout_fits` - the place of a bubble in every frame of its step.
-/

namespace GuidedTour

namespace Layout

/-! ## Targets -/

/-- A rectangle on the screen begins on the screen. -/
theorem origin_ofRect (r : Rect) (axis : Axis) :
    0 ≤ ((Bounds.ofRect r).origin axis).toInt ∧ ((Bounds.ofRect r).origin axis).toInt ≤ 65535 := by
  have hX := r.x.toNat_lt
  have hY := r.y.toNat_lt
  cases axis with
  | horizontal =>
    have hOrigin : ((Bounds.ofRect r).origin .horizontal).toInt = r.x.toNat := toInt_ofNat16 r.x
    omega
  | vertical =>
    have hOrigin : ((Bounds.ofRect r).origin .vertical).toInt = r.y.toNat := toInt_ofNat16 r.y
    omega

/-- The edges of a rectangle on the screen are not cut. -/
theorem edge_ofRect (r : Rect) (e : Edge) : ((Bounds.ofRect r).edge e).toInt =
    ((Bounds.ofRect r).origin e.axis).toInt + e.shift ((Bounds.ofRect r).size.extent e.axis) := by
  obtain ⟨hLow, hHigh⟩ := origin_ofRect r e.axis
  have hShift := e.shift_le ((Bounds.ofRect r).size.extent e.axis)
  have hExtent := ((Bounds.ofRect r).size.extent e.axis).toNat_lt
  rw [edge_eq, toInt_saturate]
  omega

/-- Neither are those of a rectangle that is given relative to a container. -/
theorem edge_moveBy (r container : Rect) (e : Edge) :
    (((Bounds.ofRect r).moveBy (.ofInt container.x.toNat) (.ofInt container.y.toNat)).edge e).toInt =
      ((Bounds.ofRect container).origin e.axis).toInt + ((Bounds.ofRect r).edge e).toInt := by
  obtain ⟨hLow, hHigh⟩ := origin_ofRect r e.axis
  obtain ⟨hLow', hHigh'⟩ := origin_ofRect container e.axis
  have hShift := e.shift_le ((Bounds.ofRect r).size.extent e.axis)
  have hExtent := ((Bounds.ofRect r).size.extent e.axis).toNat_lt
  -- both origins are on the screen, so their sum is far from being cut
  have hMoved : (((Bounds.ofRect r).moveBy (.ofInt container.x.toNat) (.ofInt container.y.toNat)).origin e.axis).toInt =
      ((Bounds.ofRect r).origin e.axis).toInt + ((Bounds.ofRect container).origin e.axis).toInt := by
    have hSum : ∀ a b : Int32, (0 ≤ a.toInt ∧ a.toInt ≤ 65535) → (0 ≤ b.toInt ∧ b.toInt ≤ 65535) →
        (saturate (a.toInt + b.toInt)).toInt = a.toInt + b.toInt := by
      intro a b ha hb
      rw [toInt_saturate]
      omega
    cases hAxis : e.axis with
    | horizontal => exact hSum _ _ (origin_ofRect r .horizontal) (origin_ofRect container .horizontal)
    | vertical => exact hSum _ _ (origin_ofRect r .vertical) (origin_ofRect container .vertical)
  have hSize : ((Bounds.ofRect r).moveBy (.ofInt container.x.toNat) (.ofInt container.y.toNat)).size =
      (Bounds.ofRect r).size := rfl
  rw [edge_eq, hMoved, hSize, edge_ofRect, toInt_saturate]
  omega

theorem edge_ofRect_le (r : Rect) (e : Edge) :
    0 ≤ ((Bounds.ofRect r).edge e).toInt ∧ ((Bounds.ofRect r).edge e).toInt ≤ 131070 := by
  obtain ⟨hLow, hHigh⟩ := origin_ofRect r e.axis
  have hShift := e.shift_le ((Bounds.ofRect r).size.extent e.axis)
  have hExtent := ((Bounds.ofRect r).size.extent e.axis).toNat_lt
  rw [edge_ofRect]
  omega

theorem resolve_view {id : String} {ctx : Context} {bounds : Bounds} (h : (Target.view id).resolve ctx = .ok bounds) :
    ∃ frame, ctx.anchors.resolve id = some frame ∧ Bounds.ofRect frame = bounds := by
  dsimp only [Target.resolve] at h
  split at h
  · next frame hFrame => exact ⟨frame, hFrame, Except.ok.inj h⟩
  · cases h

/-- A target is where it is, whatever bubble was placed. -/
theorem resolve_withBubble (t : Target) (ctx : Context) (b : Bounds) :
    t.resolve { ctx with bubble := some b } = t.resolve ctx := by
  cases t <;> rfl

/-- An edge of a target is the value of its reference and its constant together. -/
theorem resolve_reference {t : Target} {ctx : Context} {bounds : Bounds} (hTarget : t.resolve ctx = .ok bounds)
    (edge : Edge) : ∃ value, ctx.resolve (t.reference edge).1 = .ok value ∧
      value.toInt + (t.reference edge).2.toInt = (bounds.edge edge).toInt ∧
      (0 ≤ value.toInt ∧ value.toInt ≤ 131070) ∧
      0 ≤ (t.reference edge).2.toInt ∧ (t.reference edge).2.toInt ≤ 131070 := by
  have hNone : 0 ≤ (0 : Int32).toInt ∧ (0 : Int32).toInt ≤ 131070 := by decide
  cases t with
  | container =>
    cases hTarget
    exact ⟨_, rfl, Int.add_zero _, edge_ofRect_le ctx.container edge, hNone⟩
  | view id =>
    obtain ⟨frame, hFrame, rfl⟩ := resolve_view hTarget
    refine ⟨(Bounds.ofRect frame).edge edge, ?_, Int.add_zero _, edge_ofRect_le frame edge, hNone⟩
    show ctx.resolve (.view id edge) = _
    dsimp only [Context.resolve]
    rw [hFrame]
  | rect r =>
    cases hTarget
    obtain ⟨hLow, hHigh⟩ := origin_ofRect ctx.container edge.axis
    refine ⟨(Bounds.ofRect ctx.container).origin edge.axis, by cases edge <;> rfl, (edge_moveBy ..).symm, ⟨hLow, ?_⟩,
      edge_ofRect_le r edge⟩
    omega

/-- A constraint to a target is measured from the target's bounds. -/
theorem target_constraint {t : Target} {ctx : Context} {bounds : Bounds} (hTarget : t.resolve ctx = .ok bounds)
    (itemEdge edge : Edge) {k : Int32} (hLow : -131070 ≤ k.toInt) (hHigh : k.toInt ≤ 131070) :
    ∃ value, ctx.target (t.constraint itemEdge edge k) = .ok value ∧
      value.toInt = (bounds.edge edge).toInt + k.toInt := by
  obtain ⟨value, hValue, hEdge, ⟨hValueLow, hValueHigh⟩, hOffsetLow, hOffsetHigh⟩ := resolve_reference hTarget edge
  refine ⟨saturate (value.toInt + (saturate ((t.reference edge).2.toInt + k.toInt)).toInt), ?_, ?_⟩
  · show (do
      let value ← ctx.resolve (t.reference edge).1
      return saturate (value.toInt + (saturate ((t.reference edge).2.toInt + k.toInt)).toInt)) = _
    rw [hValue]
    rfl
  · rw [← hEdge, toInt_saturate, toInt_saturate]
    omega

theorem resolves_constraint {t : Target} {ctx : Context} {bounds : Bounds} (hTarget : t.resolve ctx = .ok bounds)
    (itemEdge edge : Edge) (k : Int32) : ∃ value, ctx.resolve (t.constraint itemEdge edge k).reference = .ok value := by
  obtain ⟨value, hValue, -⟩ := resolve_reference hTarget edge
  exact ⟨value, hValue⟩

/-- A wish for the middle of a target is a wish for the origin that has the middle of the item there. -/
theorem asked_middle {t : Target} {ctx : Context} {bounds : Bounds} (hTarget : t.resolve ctx = .ok bounds)
    (extent : UInt16) : ctx.asked extent (t.constraint .centerX .centerX 0).low =
      ⟨.equal, .low, originFor .centerX bounds.centerX extent⟩ := by
  obtain ⟨value, hValue, hMiddle⟩ := target_constraint hTarget .centerX .centerX (k := 0) (by decide) (by decide)
  have hSame : value = bounds.centerX := by
    rw [← Int32.toInt_inj, hMiddle]
    exact Int.add_zero _
  rw [asked_eq (c := (t.constraint .centerX .centerX 0).low) extent hValue, hSame]
  rfl

/-! ## Origins -/

/-- A preferred origin between two margins; the first one wins where they cross. -/
theorem settle_between (wish low high : Int32) :
    settle [⟨.equal, .low, wish⟩, ⟨.greaterOrEqual, .required, low⟩, ⟨.lessOrEqual, .required, high⟩] =
      if high < low then low else min (max wish low) high := rfl

/-- The middle of an item of an even or odd extent. -/
theorem toInt_originFor_centerX (value : Int32) (extent : UInt16) :
    (originFor .centerX value extent).toInt = max (-0x80000000) (value.toInt - extent.toNat / 2) := by
  have hHigh := Int32.toInt_lt value
  unfold originFor
  dsimp only
  rw [toInt_saturate]
  omega

end Layout

namespace Bubble.View

open Layout

/-! ## The size of a bubble -/

/-- A bubble is as wide as the margins allow at most. -/
theorem bubbleSize_width (v : View) (content : Content) (container : Rect) :
    (2 * v.margin.toNat ≤ container.width.toNat →
      (v.bubbleSize content container).width.toNat + 2 * v.margin.toNat ≤ container.width.toNat) ∧
    (container.width.toNat < 2 * v.margin.toNat → (v.bubbleSize content container).width = 0) := by
  have hWidth := container.width.toNat_lt
  -- the width is capped twice: by what the text asks for, and by what two margins leave
  have hLe : (v.bubbleSize content container).width.toNat ≤
      container.width.toNat - min (2 * v.margin.toNat) 65535 := by
    unfold bubbleSize
    dsimp only
    rw [UInt16.toNat_ofNat', toNat_saturate16]
    omega
  refine ⟨fun hRoom => by omega, fun hNarrow => ?_⟩
  rw [← UInt16.toNat_inj, UInt16.toNat_zero]
  omega

/-! ## Where a bubble goes -/

/-- The column that a bubble is to be centred on: the middle of its anchor, or a column of the container. -/
inductive Aim (ctx : Context) : StepKind → Int32 → Prop
  | anchor {anchor : Anchor} {location : TextLocation} {bounds : Bounds}
      (hAnchor : (Target.ofAnchor anchor).resolve ctx = .ok bounds) :
      Aim ctx (.highlighted anchor location) bounds.centerX
  | container (offset : Offset) :
      Aim ctx (.standalone (.centerOffset offset))
        (saturate ((Bounds.ofRect ctx.container).centerX.toInt + offset.x.toInt))

theorem Aim.steady {ctx : Context} {kind : StepKind} {middle : Int32} (h : Aim ctx kind middle) : kind.Steady := by
  cases h <;> exact trivial

/-- A bubble between the margins of a container, as near to its place in the middle as they allow. -/
structure Fits (container : Rect) (margin : UInt16) (middle : Int32) (b : Bounds) : Prop where
  inside : 2 * margin.toNat ≤ container.width.toNat →
    (Bounds.ofRect container).left.toInt + margin.toNat ≤ b.left.toInt ∧
      b.right.toInt ≤ (Bounds.ofRect container).right.toInt - margin.toNat
  /-- Of all columns where it would keep the margins it begins in the one that is nearest to where it would have its
  middle on the middle. -/
  nearest : 2 * margin.toNat ≤ container.width.toNat → ∀ x : Int,
    (Bounds.ofRect container).left.toInt + margin.toNat ≤ x →
    x + b.width.toNat ≤ (Bounds.ofRect container).right.toInt - margin.toNat →
      (b.left.toInt - (middle.toInt - b.width.toNat / 2)).natAbs ≤ (x - (middle.toInt - b.width.toNat / 2)).natAbs
  squeezed : container.width.toNat < 2 * margin.toNat →
    b.width = 0 ∧ b.left.toInt = (Bounds.ofRect container).left.toInt + margin.toNat

/-- A bubble on one side of its anchor, with a gap between them. -/
def Stacked (location : TextLocation) (anchor b : Bounds) (gap : Int32) : Prop :=
  match location with
  | .above => b.bottom.toInt = anchor.top.toInt - gap.toInt
  | .below => b.top.toInt = anchor.bottom.toInt + gap.toInt

theorem place_ok {v : View} (size : CellSize) {ctx : Context} (hBubble : ctx.Resolves v.constraints.bubble)
    (hArrow : ∀ arrow ∈ v.constraints.arrow, ∀ b, { ctx with bubble := some b }.Resolves arrow.1) :
    ∃ placed, v.place size ctx = .ok placed ∧ placed.bubble.size = size ∧
      ∀ axis, placed.bubble.origin axis = settle (ctx.requests v.constraints.bubble axis (size.extent axis)) := by
  obtain ⟨b, hSolved, hSize, hOrigin⟩ := solve_ok size hBubble
  unfold place
  rw [hSolved]
  cases hConstraints : v.constraints.arrow with
  | none => exact ⟨⟨b, none⟩, rfl, hSize, hOrigin⟩
  | some arrow =>
    obtain ⟨there, hThere, -⟩ := solve_ok v.style.arrowSize (hArrow arrow hConstraints b)
    refine ⟨⟨b, some ⟨there, arrow.2⟩⟩, ?_, hSize, hOrigin⟩
    show (do
      let bounds ← solve arrow.1 v.style.arrowSize { ctx with bubble := some b }
      return (⟨b, some ⟨bounds, arrow.2⟩⟩ : BubbleLayout)) = _
    rw [hThere]
    rfl

/-! ## On each axis -/

/-- The first and the last origin that the margins allow. -/
theorem requests_margins (ctx : Context) (margin width : UInt16) : ∃ low high,
    ctx.requests (marginConstraints margin) .horizontal width =
      [⟨.greaterOrEqual, .required, low⟩, ⟨.lessOrEqual, .required, high⟩] ∧
    low.toInt = (Bounds.ofRect ctx.container).left.toInt + margin.toNat ∧
    high.toInt = (Bounds.ofRect ctx.container).right.toInt - margin.toNat - width.toNat := by
  have hMargin := margin.toNat_lt
  have hWidth := width.toNat_lt
  have hLeft : 0 ≤ (Bounds.ofRect ctx.container).left.toInt ∧ (Bounds.ofRect ctx.container).left.toInt ≤ 131070 :=
    edge_ofRect_le ctx.container .left
  have hRight : 0 ≤ (Bounds.ofRect ctx.container).right.toInt ∧ (Bounds.ofRect ctx.container).right.toInt ≤ 131070 :=
    edge_ofRect_le ctx.container .right
  -- a margin is the same as an offset to either side
  have hPlus : (Int32.ofInt margin.toNat).toInt = margin.toNat := toInt_ofNat16 margin
  have hMinus : (Int32.ofInt (-(margin.toNat : Int))).toInt = -margin.toNat := toInt_neg_ofNat16 margin
  refine ⟨_, _, rfl, ?_, ?_⟩
  · show (saturate ((Bounds.ofRect ctx.container).left.toInt + (Int32.ofInt margin.toNat).toInt)).toInt = _
    rw [hPlus, toInt_saturate]
    omega
  · show (saturate ((saturate ((Bounds.ofRect ctx.container).right.toInt +
      (Int32.ofInt (-(margin.toNat : Int))).toInt)).toInt - width.toNat)).toInt = _
    rw [hMinus, toInt_saturate, toInt_saturate]
    omega

theorem requests_highlight (ctx : Context) (t : Target) (location : TextLocation) (style : BubbleStyle)
    (margin extent : UInt16) :
    ctx.requests (highlightConstraints t location style margin) .horizontal extent =
        ctx.asked extent (t.constraint .centerX .centerX 0).low ::
          ctx.requests (marginConstraints margin) .horizontal extent ∧
      ctx.requests (highlightConstraints t location style margin) .vertical extent = [ctx.asked extent
        (match location with
          | .above => t.constraint .bottom .top (-style.highlightGap)
          | .below => t.constraint .top .bottom style.highlightGap)] := by
  cases location <;> exact ⟨rfl, rfl⟩

/-- Between the margins a bubble of a width that fits lies as near to the middle as it can. -/
theorem fits_of_settle {ctx : Context} {constraints : List Constraint} {margin : UInt16} {middle : Int32} {b : Bounds}
    (hRequests : ctx.requests constraints .horizontal b.width =
      ⟨.equal, .low, originFor .centerX middle b.width⟩ :: ctx.requests (marginConstraints margin) .horizontal b.width)
    (hOrigin : b.x = settle (ctx.requests constraints .horizontal b.width))
    (hRoom : 2 * margin.toNat ≤ ctx.container.width.toNat →
      b.width.toNat + 2 * margin.toNat ≤ ctx.container.width.toNat)
    (hNarrow : ctx.container.width.toNat < 2 * margin.toNat → b.width = 0) : Fits ctx.container margin middle b := by
  obtain ⟨low, high, hMargins, hLow, hHigh⟩ := requests_margins ctx margin b.width
  have hRight : (Bounds.ofRect ctx.container).right.toInt =
      (Bounds.ofRect ctx.container).left.toInt + ctx.container.width.toNat := edge_ofRect ctx.container .right
  have hLeft : 0 ≤ (Bounds.ofRect ctx.container).left.toInt ∧ (Bounds.ofRect ctx.container).left.toInt ≤ 131070 :=
    edge_ofRect_le ctx.container .left
  have hEnd := b.width.toNat_lt
  have hEndContainer := ctx.container.width.toNat_lt
  rw [hRequests, hMargins, settle_between] at hOrigin
  by_cases hWide : 2 * margin.toNat ≤ ctx.container.width.toNat
  · -- the margins leave room, so the preferred origin is only moved between them
    have hSpace := hRoom hWide
    have hOpen : ¬ high < low := by
      rw [Int32.lt_iff_toInt_lt]
      omega
    have hBegin : b.left.toInt = min (max (middle.toInt - b.width.toNat / 2) low.toInt) high.toInt := by
      rw [if_neg hOpen] at hOrigin
      show b.x.toInt = _
      rw [hOrigin, toInt_min, toInt_max, toInt_originFor_centerX]
      omega
    have hRightEdge : b.right.toInt = b.left.toInt + b.width.toNat := by
      show (saturate (b.left.toInt + b.width.toNat)).toInt = _
      rw [toInt_saturate]
      omega
    refine ⟨fun _ => ⟨by omega, by omega⟩, fun _ x hFirst hLast => by omega, fun h => by omega⟩
  · -- the margins cross, and the left one counts
    have hNone := hNarrow (by omega)
    have hZero : b.width.toNat = 0 := by rw [hNone]; rfl
    have hCross : high < low := by
      rw [Int32.lt_iff_toInt_lt]
      omega
    rw [if_pos hCross] at hOrigin
    refine ⟨fun h => absurd h hWide, fun h => absurd h hWide, fun _ => ⟨hNone, ?_⟩⟩
    show b.x.toInt = _
    rw [hOrigin, hLow]

/-! ## In every frame of a step -/

/-- The gap between a bubble and its anchor is the arrow and the rows that stay free. -/
theorem toInt_highlightGap (style : BubbleStyle) :
    style.highlightGap.toInt = style.yOffset.toNat + style.arrowSize.height.toNat := by
  have hOffset := style.yOffset.toNat_lt
  have hArrow := style.arrowSize.height.toNat_lt
  unfold BubbleStyle.highlightGap
  rw [Int32.toInt_ofInt]
  simp only [Int.bmod_def, Int32.size]
  omega

theorem highlightGap_le (style : BubbleStyle) :
    0 ≤ style.highlightGap.toInt ∧ style.highlightGap.toInt ≤ 131070 := by
  have hOffset := style.yOffset.toNat_lt
  have hArrow := style.arrowSize.height.toNat_lt
  rw [toInt_highlightGap]
  omega

theorem stepConstraints_highlighted {step : Step} {anchor : Anchor} {location : TextLocation}
    (hKind : step.kind = .highlighted anchor location) (style : BubbleStyle) (margin : UInt16) (ctx : Context) :
    stepConstraints step style margin ctx = targetConstraints (.ofAnchor anchor) location style margin := by
  unfold stepConstraints
  rw [hKind]

theorem stepConstraints_centered {step : Step} {offset : Offset}
    (hKind : step.kind = .standalone (.centerOffset offset)) (style : BubbleStyle) (margin : UInt16) (ctx : Context) :
    stepConstraints step style margin ctx = ⟨centerConstraints offset margin, none⟩ := by
  unfold stepConstraints
  rw [hKind]

section Aimed

variable {step : Step} {ctx : Context} {middle : Int32}

/-- A bubble that has an aim is placed, and so is its arrow. -/
theorem Aim.resolves (h : Aim ctx step.kind middle) (style : BubbleStyle) (margin : UInt16) :
    ctx.Resolves (stepConstraints step style margin ctx).bubble ∧
      ∀ arrow ∈ (stepConstraints step style margin ctx).arrow, ∀ b, { ctx with bubble := some b }.Resolves arrow.1 := by
  generalize hKind : step.kind = kind at h
  cases h with
  | @anchor anchor location bounds hAnchor =>
    rw [stepConstraints_highlighted hKind]
    refine ⟨fun c hc => ?_, fun arrow hArrow b c hc => ?_⟩
    · simp only [targetConstraints, highlightConstraints, marginConstraints, List.mem_cons, List.not_mem_nil,
        or_false] at hc
      rcases hc with rfl | rfl | rfl | rfl
      · exact resolves_constraint hAnchor .centerX .centerX 0
      · cases location
        · exact resolves_constraint hAnchor .bottom .top _
        · exact resolves_constraint hAnchor .top .bottom _
      · exact ⟨_, rfl⟩
      · exact ⟨_, rfl⟩
    · -- the bubble is placed by now, and the anchor is where it was
      have hSame := (resolve_withBubble (.ofAnchor anchor) ctx b).trans hAnchor
      cases hArrow
      simp only [arrowConstraints, List.mem_cons, List.not_mem_nil, or_false] at hc
      rcases hc with rfl | rfl | rfl | rfl
      · cases location <;> exact ⟨_, rfl⟩
      · exact ⟨_, rfl⟩
      · exact ⟨_, rfl⟩
      · exact resolves_constraint hSame .centerX .centerX 0
  | container offset =>
    rw [stepConstraints_centered hKind]
    refine ⟨fun c hc => ?_, fun arrow hArrow => by cases hArrow⟩
    simp only [centerConstraints, marginConstraints, List.mem_cons, List.not_mem_nil, or_false] at hc
    rcases hc with rfl | rfl | rfl | rfl <;> exact ⟨_, rfl⟩

/-- On the horizontal axis nothing counts but the aim and the margins. -/
theorem Aim.requests (h : Aim ctx step.kind middle) (style : BubbleStyle) (margin width : UInt16) :
    ctx.requests (stepConstraints step style margin ctx).bubble .horizontal width =
      ⟨.equal, .low, originFor .centerX middle width⟩ ::
        ctx.requests (marginConstraints margin) .horizontal width := by
  generalize hKind : step.kind = kind at h
  cases h with
  | @anchor anchor location bounds hAnchor =>
    rw [stepConstraints_highlighted hKind, targetConstraints, (requests_highlight ctx _ location style margin width).1,
      asked_middle hAnchor]
  | container offset =>
    rw [stepConstraints_centered hKind]
    rfl

/-- On the vertical axis the bubble of a highlighted step is where its anchor says. -/
theorem stacked_of_settle {anchor : Anchor} {location : TextLocation} {bounds b : Bounds}
    (hAnchor : (Target.ofAnchor anchor).resolve ctx = .ok bounds) (style : BubbleStyle) (margin : UInt16)
    (hOrigin : b.y = settle (ctx.requests (highlightConstraints (.ofAnchor anchor) location style margin)
      .vertical b.height)) : Stacked location bounds b style.highlightGap := by
  obtain ⟨hGapLow, hGapHigh⟩ := highlightGap_le style
  have hHeight := b.height.toNat_lt
  -- the anchor is near the screen, so the far edge of the bubble is not cut
  have hNear : ∀ e, 0 ≤ (bounds.edge e).toInt := by
    intro e
    obtain ⟨value, -, hSum, ⟨hValue, -⟩, hConstant, -⟩ := resolve_reference hAnchor e
    omega
  rw [(requests_highlight ctx _ location style margin b.height).2] at hOrigin
  cases location with
  | above =>
    have hNegated : (-style.highlightGap).toInt = -style.highlightGap.toInt := by
      rw [Int32.toInt_neg]
      simp only [Int.bmod_def]
      omega
    obtain ⟨value, hValue, hEdge⟩ := target_constraint hAnchor .bottom .top (k := -style.highlightGap)
      (by omega) (by omega)
    dsimp only at hOrigin
    rw [asked_eq b.height hValue] at hOrigin
    have hTop := hNear .top
    have hAt : b.edge .bottom = value := by
      refine edge_eq_target hOrigin ?_
      show -0x80000000 + (b.height.toNat : Int) ≤ value.toInt
      omega
    show (b.edge .bottom).toInt = (bounds.edge .top).toInt - style.highlightGap.toInt
    rw [hAt, hEdge, hNegated]
    rfl
  | below =>
    obtain ⟨value, hValue, hEdge⟩ := target_constraint hAnchor .top .bottom (k := style.highlightGap)
      (by omega) (by omega)
    dsimp only at hOrigin
    rw [asked_eq b.height hValue] at hOrigin
    show b.y.toInt = (bounds.edge .bottom).toInt + style.highlightGap.toInt
    rw [hOrigin, ← hEdge]
    rfl

/-- With an anchor that resolves, or an offset, every frame of a step finds a place for the bubble. -/
theorem layout_aimed {v : View} (hShows : v.Shows step.kind) (hAim : Aim ctx step.kind middle) (now : Nanos) :
    ∃ placed, (v.layout step ctx now).2 = .ok placed := by
  obtain ⟨hBubble, hArrow⟩ := hAim.resolves v.style v.margin
  obtain ⟨placed, hPlaced, -⟩ := place_ok
    (v := { v with constraints := stepConstraints step v.style v.margin ctx })
    (v.bubbleSize step.content ctx.container) hBubble hArrow
  exact ⟨placed, (layout_answer hShows hAim.steady ctx now).trans hPlaced⟩

/--
**The place of a bubble.** Whatever a bubble went through before it was to show a step, and in every frame since: if
the step is highlighted and its anchor resolves, or the step is centred with an offset, the bubble is placed. It keeps
both margins wherever the container is wide enough for them, and begins in the admissible column nearest to the one
that centres it; in a narrower container it has no width and lies at the left margin. Above or below an anchor its
distance from the anchor is exactly the gap.
-/
theorem layout_fits {v : View} (hShows : v.Shows step.kind) (hAim : Aim ctx step.kind middle) (now : Nanos) :
    ∃ placed, (v.layout step ctx now).2 = .ok placed ∧ Fits ctx.container v.margin middle placed.bubble ∧
      ∀ anchor location bounds, step.kind = .highlighted anchor location →
        (Target.ofAnchor anchor).resolve ctx = .ok bounds →
          Stacked location bounds placed.bubble v.style.highlightGap := by
  obtain ⟨hBubble, hArrow⟩ := hAim.resolves v.style v.margin
  obtain ⟨hRoom, hNarrow⟩ := v.bubbleSize_width step.content ctx.container
  obtain ⟨placed, hPlaced, hSize, hOrigin⟩ := place_ok
    (v := { v with constraints := stepConstraints step v.style v.margin ctx })
    (v.bubbleSize step.content ctx.container) hBubble hArrow
  rw [← hSize] at hOrigin hRoom hNarrow
  refine ⟨placed, (layout_answer hShows hAim.steady ctx now).trans hPlaced, ?_, ?_⟩
  · exact fits_of_settle (hAim.requests v.style v.margin placed.bubble.width) (hOrigin .horizontal) hRoom hNarrow
  · -- only the constraints of a highlighted step say something about the rows of an anchor
    intro anchor location bounds hKind hAnchor
    have hVertical := hOrigin .vertical
    dsimp only at hVertical
    rw [stepConstraints_highlighted hKind] at hVertical
    exact stacked_of_settle hAnchor v.style v.margin hVertical

end Aimed

/-- Near the corner the margin wins over the middle of the anchor, and the rows are exact. -/
theorem layout_fits_corner :
    let v : View := { style := {}, margin := 4, preferredWidth := none, transition := 0 }
    let step : Step := .below (.rect ⟨74, 2, 6, 1⟩)
      (.custom { preferredSize := fun _ => ⟨26, 1⟩, draw := fun _ _ b => b })
    let ctx : Context := .of ⟨0, 0, 80, 24⟩ .empty
    v.Shows step.kind ∧ Aim ctx step.kind 77 ∧ ∃ placed, (v.layout step ctx 0).2 = .ok placed ∧
      placed.bubble.right.toInt ≤ 76 ∧ placed.bubble.top.toInt = 5 := by
  intro v step ctx
  have hShows : v.Shows step.kind := .fresh ..
  have hMiddle : ((Bounds.ofRect ⟨74, 2, 6, 1⟩).moveBy (.ofInt 0) (.ofInt 0)).centerX = 77 := by decide
  have hAim : Aim ctx step.kind 77 := by
    rw [← hMiddle]
    exact .anchor rfl
  obtain ⟨placed, hPlaced, hFits, hStacked⟩ := layout_fits hShows hAim 0
  refine ⟨hShows, hAim, placed, hPlaced, ?_, ?_⟩
  · exact Int.le_trans (hFits.inside (by decide)).2 (by decide)
  · exact (hStacked _ _ _ rfl rfl).trans (by decide)

end Bubble.View

end GuidedTour
