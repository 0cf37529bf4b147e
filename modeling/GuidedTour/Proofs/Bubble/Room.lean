import GuidedTour.Bubble.View
import GuidedTour.Proofs.Screen.Coverage

/-!
# The room of a text

A bubble is made for its content: the content is measured at the columns that margins and insets leave, or at the
preferred width if that is less; the insets are added, and what comes out is cut to the columns between the margins and
to the rows of the container. When the bubble is drawn the insets are taken off again. All of these sums are cut at
65535 and at zero, so what is taken off need not be what was added. It is, all the same: nothing is measured wider than
the columns that the insets leave, and where they leave none nothing is measured at all. Only the rows can be short, in
a container with less of them than the content asks for.

Main results:

* `width_bubbleSize`, `height_bubbleSize` - the size of a bubble, as sums of which none is cut at 65535.
* `measure_of_lines` - a text has no size, or as many rows as it is wrapped to.
* `clip_of_inside` - bounds in an area are not clipped.
* `content_has_room` - a content is drawn in the room that it was measured for.
-/

namespace GuidedTour

open Screen

/-! ## Measuring -/

namespace Content

/-- The lines of a text; a view of its own has none. -/
def lines? : Content → Option (List Line)
  | .plain text => some (linesOf text)
  | .rich lines => some lines
  | .custom _ => none

/-- A line makes a row, even if there is nothing on it. -/
theorem wrapLine_ne_nil (limit : Nat) (glyphs : List Glyph) : Paragraph.wrapLine limit glyphs ≠ [] := by
  have hKept : ∀ rows : List (List Glyph), (if rows.isEmpty then [[]] else rows.reverse) ≠ [] := by
    intro rows
    cases rows <;> simp
  exact hKept _

theorem wrap_length_pos {limit : Nat} {lines : List Line} (hLimit : limit ≠ 0) (hLines : lines ≠ []) :
    0 < (Paragraph.wrap limit lines).length := by
  obtain ⟨l, rest, rfl⟩ := List.exists_cons_of_ne_nil hLines
  rw [Paragraph.wrap, if_neg hLimit, List.flatMap_cons, List.length_append]
  have hFirst := List.length_pos_iff.mpr (wrapLine_ne_nil limit (l.glyphs {}))
  omega

/-- Lines that are measured have no size, or as many rows as they are wrapped to. -/
theorem measureLines_cases (lines : List Line) (maxWidth : UInt16) : measureLines lines maxWidth = ⟨0, 0⟩ ∨
    (measureLines lines maxWidth).width ≠ 0 ∧ (measureLines lines maxWidth).width ≤ maxWidth ∧
      (measureLines lines maxWidth).height.toNat =
        min (Paragraph.wrap (measureLines lines maxWidth).width.toNat lines).length 65535 ∧
      (measureLines lines maxWidth).height ≠ 0 := by
  have hMax := maxWidth.toNat_lt
  unfold measureLines
  dsimp only
  split
  · exact .inl rfl
  · next hWidth =>
    set width := min (min (Paragraph.naturalWidth lines) 65535) maxWidth.toNat
    have hExact : (UInt16.ofNat width).toNat = width := by
      rw [UInt16.toNat_ofNat']
      omega
    -- lines that have a width are not none at all, so they make a row
    have hLines : lines ≠ [] := by
      rintro rfl
      exact hWidth (by simp [width, Paragraph.naturalWidth])
    have hRows := wrap_length_pos hWidth hLines
    refine .inr ⟨?_, ?_, ?_, ?_⟩
    · rw [ne_eq, ← UInt16.toNat_inj, hExact]
      exact hWidth
    · rw [UInt16.le_iff_toNat_le, hExact]
      exact Nat.min_le_right _ _
    · rw [hExact, toNat_saturate16]
    · rw [ne_eq, ← UInt16.toNat_inj, toNat_saturate16]
      have hZero : (0 : UInt16).toNat = 0 := rfl
      omega

/-- A text that is measured has no size, or as many rows as it is wrapped to. -/
theorem measure_of_lines {c : Content} {lines : List Line} (hLines : c.lines? = some lines) (maxWidth : UInt16) :
    c.measure maxWidth = ⟨0, 0⟩ ∨
      (c.measure maxWidth).width ≠ 0 ∧ (c.measure maxWidth).height ≠ 0 ∧
        (c.measure maxWidth).height.toNat =
          min (Paragraph.wrap (c.measure maxWidth).width.toNat lines).length 65535 := by
  by_cases hNone : maxWidth = 0
  · exact .inl (if_pos hNone)
  have hMeasure : c.measure maxWidth = measureLines lines maxWidth := by
    cases c with
    | plain text =>
      cases hLines
      exact if_neg hNone
    | rich own =>
      cases hLines
      exact if_neg hNone
    | custom view => cases hLines
  rw [hMeasure]
  exact (measureLines_cases lines maxWidth).imp id fun ⟨hWidth, _, hRows, hHeight⟩ => ⟨hWidth, hHeight, hRows⟩

/-- No content is measured wider than the columns that it is given. -/
theorem measure_width_le (c : Content) (maxWidth : UInt16) : (c.measure maxWidth).width ≤ maxWidth := by
  have hLines : ∀ lines, (measureLines lines maxWidth).width ≤ maxWidth := by
    intro lines
    rcases measureLines_cases lines maxWidth with hNone | ⟨-, hWidth, -⟩
    · rw [hNone]
      exact UInt16.zero_le
    · exact hWidth
  unfold measure
  split
  · exact UInt16.zero_le
  · cases c with
    | plain text => exact hLines _
    | rich lines => exact hLines lines
    | custom view => exact Std.min_le_right

end Content

/-! ## Clipping what is inside -/

/-- The bounds lie in an area. -/
def Bounds.Inside (b : Bounds) (area : Rect) : Prop :=
  ((area.left : Int) ≤ b.left.toInt ∧ b.right.toInt ≤ area.right) ∧
    (area.top : Int) ≤ b.top.toInt ∧ b.bottom.toInt ≤ area.bottom

instance (b : Bounds) (area : Rect) : Decidable (b.Inside area) := inferInstanceAs (Decidable (_ ∧ _))

/-- The room of what is drawn in an area. What is not drawn has none. -/
def roomOf (area : Option Rect) : CellSize := area.elim ⟨0, 0⟩ fun r => ⟨r.width, r.height⟩

/-- An extent on the screen is not cut. -/
theorem extent_of_onScreen {x : Int} {extent : UInt16} (hBegin : 0 ≤ x) (hEnd : x + extent.toNat ≤ 65535) :
    UInt16.ofNat (min (x + extent.toNat - x).toNat (65535 - min x.toNat 65535)) = extent := by
  have hExtent : (x + extent.toNat - x).toNat = extent.toNat := by omega
  rw [hExtent, Nat.min_eq_left (by omega), UInt16.ofNat_toNat]

/-- Bounds in an area are not clipped. -/
theorem clip_of_inside {b : Bounds} {area : Rect} (hInside : b.Inside area) (hWidth : b.width ≠ 0)
    (hHeight : b.height ≠ 0) : roomOf (b.clip area) = b.size := by
  have hRight := area.right_le
  have hBottom := area.bottom_le
  obtain ⟨⟨hLeft', hRight'⟩, hTop', hBottom'⟩ := hInside
  have hColumns : b.width.toNat ≠ 0 := fun h => hWidth (UInt16.toNat_inj.mp h)
  have hRows : b.height.toNat ≠ 0 := fun h => hHeight (UInt16.toNat_inj.mp h)
  -- the far edges are on the screen, so they are not cut
  have hEndX : b.right.toInt = b.left.toInt + b.width.toNat := by
    have hEdge : b.right.toInt = max (-0x80000000) (min (b.left.toInt + b.width.toNat) 0x7FFFFFFF) := toInt_saturate _
    omega
  have hEndY : b.bottom.toInt = b.top.toInt + b.height.toNat := by
    have hEdge : b.bottom.toInt = max (-0x80000000) (min (b.top.toInt + b.height.toNat) 0x7FFFFFFF) := toInt_saturate _
    omega
  have hSome : ¬ (b.right.toInt ≤ b.left.toInt ∨ b.bottom.toInt ≤ b.top.toInt) := by
    rw [hEndX, hEndY]
    omega
  unfold Bounds.clip Bounds.clipEdges
  dsimp only
  rw [Int.max_eq_left hLeft', Int.max_eq_left hTop', Int.min_eq_left hRight', Int.min_eq_left hBottom', if_neg hSome,
    hEndX, hEndY]
  show CellSize.mk (.ofNat _) (.ofNat _) = ⟨b.width, b.height⟩
  rw [CellSize.mk.injEq]
  exact ⟨extent_of_onScreen (by omega) (by omega), extent_of_onScreen (by omega) (by omega)⟩

namespace Bubble

/-! ## The size of a bubble -/

namespace View

/-- The columns between the margins of a container. -/
def available (v : View) (container : Rect) : Nat := container.width.toNat - 2 * v.margin.toNat

/-- The columns that a content is measured at: those that the insets leave between the margins, or the preferred width
if that is less. -/
def textWidth (v : View) (container : Rect) : UInt16 :=
  let room := v.available container - v.style.textInsets.horizontal.toNat
  .ofNat (v.preferredWidth.elim room fun preferred => min preferred.toNat room)

theorem textWidth_le_preferred {v : View} {preferred : UInt16} (h : preferred ∈ v.preferredWidth) (container : Rect) :
    v.textWidth container ≤ preferred := by
  have hPreferred := preferred.toNat_lt
  rw [textWidth, Option.mem_def.mp h, UInt16.le_iff_toNat_le, Option.elim_some, UInt16.toNat_ofNat']
  omega

theorem textWidth_le_room (v : View) (container : Rect) :
    (v.textWidth container).toNat ≤ v.available container - v.style.textInsets.horizontal.toNat := by
  have hContainer := container.width.toNat_lt
  rw [textWidth, available]
  cases v.preferredWidth with
  | none =>
    rw [Option.elim_none, UInt16.toNat_ofNat']
    omega
  | some preferred =>
    rw [Option.elim_some, UInt16.toNat_ofNat']
    omega

variable (v : View) (content : Content) (container : Rect)

theorem available_eq :
    container.width.toNat - (saturate16 (2 * v.margin.toNat)).toNat = v.available container := by
  have hContainer := container.width.toNat_lt
  rw [toNat_saturate16, available]
  omega

/-- The only width that a content is measured at. -/
theorem bubbleSize_eq : v.bubbleSize content container =
    { width := .ofNat (min (min ((content.measure (v.textWidth container)).width.toNat +
        v.style.textInsets.horizontal.toNat) 65535) (v.available container))
      height := .ofNat (min (min ((content.measure (v.textWidth container)).height.toNat +
        v.style.textInsets.vertical.toNat) 65535) container.height.toNat) } := by
  rw [bubbleSize, available_eq, textWidth]
  cases v.preferredWidth <;> rfl

theorem width_bubbleSize : (v.bubbleSize content container).width.toNat =
    min ((content.measure (v.textWidth container)).width.toNat + v.style.textInsets.horizontal.toNat)
      (v.available container) := by
  have hContainer := container.width.toNat_lt
  have hAvailable : v.available container ≤ container.width.toNat := Nat.sub_le _ _
  rw [bubbleSize_eq, UInt16.toNat_ofNat']
  omega

theorem height_bubbleSize : (v.bubbleSize content container).height.toNat =
    min ((content.measure (v.textWidth container)).height.toNat + v.style.textInsets.vertical.toNat)
      container.height.toNat := by
  have hContainer := container.height.toNat_lt
  rw [bubbleSize_eq, UInt16.toNat_ofNat']
  omega

end View

/-! ## Within the insets -/

variable {v : View} {content : Content} {container : Rect} {bubble : Bounds}

/-- A bubble of the size for a content has within its insets what the content measures, if the container has the rows
for it. -/
theorem insetBounds_size (hRows : (content.measure (v.textWidth container)).height.toNat +
      v.style.textInsets.vertical.toNat ≤ container.height.toNat)
    (hSize : bubble.size = v.bubbleSize content container) :
    (insetBounds bubble v.style).size = content.measure (v.textWidth container) := by
  have hWidth : bubble.width.toNat = _ := (congrArg (·.width.toNat) hSize).trans (v.width_bubbleSize content container)
  have hHeight : bubble.height.toNat = _ :=
    (congrArg (·.height.toNat) hSize).trans (v.height_bubbleSize content container)
  have hMeasured := UInt16.le_iff_toNat_le.mp (content.measure_width_le (v.textWidth container))
  have hRoom := v.textWidth_le_room container
  have hColumns := (content.measure (v.textWidth container)).width.toNat_lt
  show CellSize.mk (.ofNat (bubble.width.toNat - _)) (.ofNat (bubble.height.toNat - _)) = _
  generalize hContent : content.measure (v.textWidth container) = measured at *
  obtain ⟨width, height⟩ := measured
  rw [CellSize.mk.injEq, ← UInt16.toNat_inj, ← UInt16.toNat_inj, UInt16.toNat_ofNat', UInt16.toNat_ofNat']
  dsimp only at *
  have hBubble := bubble.height.toNat_lt
  omega

/-- The extent that two insets leave. -/
theorem toNat_inset_extent (extent first last : UInt16) :
    (UInt16.ofNat (extent.toNat - (saturate16 (first.toNat + last.toNat)).toNat)).toNat =
      extent.toNat - min (first.toNat + last.toNat) 65535 := by
  rw [UInt16.toNat_ofNat_of_lt' (Nat.lt_of_le_of_lt (Nat.sub_le _ _) extent.toNat_lt), toNat_saturate16]

/-- What is left of a row or column of cells between two insets lies between the same edges, if anything is left. -/
theorem inset_between {low high : Nat} {x : Int32} {extent first last : UInt16} (hHigh : high ≤ 65535)
    (hBegin : (low : Int) ≤ x.toInt) (hEnd : (saturate (x.toInt + extent.toNat)).toInt ≤ high)
    (hSome : UInt16.ofNat (extent.toNat - (saturate16 (first.toNat + last.toNat)).toNat) ≠ 0) :
    (low : Int) ≤ (saturate (x.toInt + first.toNat)).toInt ∧
      (saturate ((saturate (x.toInt + first.toNat)).toInt +
        (UInt16.ofNat (extent.toNat - (saturate16 (first.toNat + last.toNat)).toNat)).toNat)).toInt ≤ high := by
  have hExtent := extent.toNat_lt
  rw [ne_eq, ← UInt16.toNat_inj, toNat_inset_extent, UInt16.toNat_zero] at hSome
  -- something is left, so the sum of the insets was not cut, and neither is any edge
  have hSum : min (first.toNat + last.toNat) 65535 = first.toNat + last.toNat := by omega
  rw [toInt_saturate] at hEnd
  rw [toNat_inset_extent, hSum, toInt_saturate, toInt_saturate]
  omega

/-- What is within the insets lies in the area that the bubble lies in. -/
theorem inside_insetBounds {area : Rect} {style : BubbleStyle} (hInside : bubble.Inside area)
    (hWidth : (insetBounds bubble style).width ≠ 0) (hHeight : (insetBounds bubble style).height ≠ 0) :
    (insetBounds bubble style).Inside area :=
  ⟨inset_between area.right_le hInside.1.1 hInside.1.2 hWidth,
    inset_between area.bottom_le hInside.2.1 hInside.2.2 hHeight⟩

/-! ## The room of a content -/

/-- A content is drawn within the insets of its bubble, as far as the area goes. -/
theorem contentArea_draw {now : Nanos} (hVisible : v.visible = true) (hFrame : v.frameAt now = some bubble)
    (content : Content) (area : Rect) (b : Buffer) :
    (v.draw content area b now).1.contentArea = (insetBounds bubble v.style).clip area := by
  unfold View.draw
  rw [hVisible, hFrame]
  rfl

/-- What is to be said of the bubble around a content that measures so much. -/
structure HasRoom (v : View) (content : Content) (container : Rect) (measured : CellSize) : Prop where
  /-- The bubble is made for what was measured. -/
  made : (v.bubbleSize content container).width.toNat =
      min (measured.width.toNat + v.style.textInsets.horizontal.toNat) (container.width.toNat - 2 * v.margin.toNat) ∧
    (v.bubbleSize content container).height.toNat =
      min (measured.height.toNat + v.style.textInsets.vertical.toNat) container.height.toNat
  /-- It keeps the margins free, and is no taller than the container. -/
  fits : (v.bubbleSize content container).width.toNat ≤ container.width.toNat - 2 * v.margin.toNat ∧
    (v.bubbleSize content container).height ≤ container.height
  /-- Wherever it is, there is within its insets what was measured, if the container has the rows for it. -/
  inset : measured.height.toNat + v.style.textInsets.vertical.toNat ≤ container.height.toNat →
    ∀ bubble : Bounds, bubble.size = v.bubbleSize content container → (insetBounds bubble v.style).size = measured
  /-- A text is then drawn in exactly that room, which has as many rows as the text is wrapped to there. -/
  rows : measured.height.toNat + v.style.textInsets.vertical.toNat ≤ container.height.toNat →
    ∀ lines, content.lines? = some lines → (Paragraph.wrap measured.width.toNat lines).length < 65536 →
      ∀ (bubble : Bounds) (area : Rect) (now : Nanos) (b : Buffer), bubble.size = v.bubbleSize content container →
        bubble.Inside area → v.visible = true → v.frameAt now = some bubble →
          let drawn := roomOf (v.draw content area b now).1.contentArea
          drawn = measured ∧ (Paragraph.wrap drawn.width.toNat lines).length = drawn.height.toNat

/-- The room that a text is drawn in, within the insets of a bubble that is made for it. -/
theorem roomOf_text {lines : List Line} (hRows : (content.measure (v.textWidth container)).height.toNat +
      v.style.textInsets.vertical.toNat ≤ container.height.toNat) (hLines : content.lines? = some lines)
    (hSize : bubble.size = v.bubbleSize content container) {area : Rect} (hInside : bubble.Inside area) :
    roomOf ((insetBounds bubble v.style).clip area) = content.measure (v.textWidth container) := by
  have hInset := insetBounds_size hRows hSize
  rcases Content.measure_of_lines hLines (v.textWidth container) with hNone | ⟨hWidth, hHeight, -⟩
  · -- a text without a size is not drawn
    have hEmpty : (insetBounds bubble v.style).width = 0 := congrArg (·.width) (hInset.trans hNone)
    rw [Bounds.clip_of_narrow hEmpty, hNone]
    rfl
  · rw [← hInset] at hWidth hHeight
    rw [clip_of_inside (inside_insetBounds hInside hWidth hHeight) hWidth hHeight, hInset]

/-- A content is measured at the preferred width at most, and its bubble has room for exactly what was measured: within
the insets, and for a text also in the picture, where it has as many rows as it is wrapped to. -/
theorem content_has_room (v : View) (content : Content) (container : Rect) :
    (∀ preferred ∈ v.preferredWidth, v.textWidth container ≤ preferred) ∧
      HasRoom v content container (content.measure (v.textWidth container)) := by
  have hWidth := v.width_bubbleSize content container
  have hHeight := v.height_bubbleSize content container
  refine ⟨fun preferred h => View.textWidth_le_preferred h container, ⟨hWidth, hHeight⟩, ⟨?_, ?_⟩, ?_, ?_⟩
  · rw [hWidth]
    exact Nat.min_le_right _ _
  · rw [UInt16.le_iff_toNat_le, hHeight]
    exact Nat.min_le_right _ _
  · exact fun hRows bubble hSize => insetBounds_size hRows hSize
  · intro hRows lines hLines hFew bubble area now b hSize hInside hVisible hFrame
    have hDrawn : roomOf (v.draw content area b now).1.contentArea = content.measure (v.textWidth container) := by
      rw [contentArea_draw hVisible hFrame]
      exact roomOf_text hRows hLines hSize hInside
    refine ⟨hDrawn, ?_⟩
    rw [hDrawn]
    rcases Content.measure_of_lines hLines (v.textWidth container) with hNone | ⟨-, -, hCount⟩
    · -- there is no column, and no row
      rw [hNone]
      rfl
    · rw [hCount]
      omega

/-- Two words that are wrapped at a preferred width of six columns. -/
theorem content_has_room_wrapped :
    let v : View := { style := {}, margin := 1, preferredWidth := some 6, transition := 0, visible := true,
                      frame := some (.settled ⟨30, 10, 10, 4⟩ 0) }
    let content : Content := .plain "Hello there"
    let container : Rect := ⟨0, 0, 80, 24⟩
    v.textWidth container ≤ 6 ∧ content.measure (v.textWidth container) = ⟨6, 2⟩ ∧
      roomOf (v.draw content container (.blank container) 0).1.contentArea = ⟨6, 2⟩ ∧
      (Paragraph.wrap 6 (linesOf "Hello there")).length = 2 := by
  intro v content container
  have hMeasured : content.measure (v.textWidth container) = ⟨6, 2⟩ := by decide +kernel
  have hFew : (Paragraph.wrap 6 (linesOf "Hello there")).length < 65536 := by decide +kernel
  obtain ⟨hPreferred, hRoom⟩ := content_has_room v content container
  rw [hMeasured] at hRoom
  obtain ⟨hDrawn, hRows⟩ := hRoom.rows (by decide) _ rfl hFew ⟨30, 10, 10, 4⟩ container 0 (.blank container)
    (by decide +kernel) (by decide) rfl rfl
  rw [hDrawn] at hRows
  exact ⟨hPreferred 6 rfl, hMeasured, hDrawn, hRows⟩

end Bubble

end GuidedTour
