import GuidedTour.Proofs.Bubble.Room
import GuidedTour.Proofs.Screen.Paragraph

/-!
# The picture of a bubble

A bubble is drawn in four layers: its shadow, its body, its arrow and its content. Each is clipped to the area on its
own, and each asks for its cells in its own way: the shadow leaves out the bubble and its own round corners, the body
leaves out the bubble's, the arrow is painted cell by cell around its middle, and the content is given a rectangle. The
bounds of all of them are signed and may lie anywhere, so every sum of edges is cut. Of the content nothing is known
but that it stays within its rectangle; of plain text, also that it leaves the background as it is.

Main results:

* `drawArrow_changes` - an arrow is painted within its bounds, and leaves background and attributes.
* `covers_of_inset` - the rectangle of the content lies in the bubble.
* `draw_layers` - what is said of the shadow, of the arrow and of the content is said of the picture.
* `picture_within` - the picture is kept within the bubble, its shadow and its arrow.
-/

namespace GuidedTour

open Screen Screen.Buffer

/-! ## Contents that stay within their rectangle -/

namespace Content

/-- The content changes no cell outside of the rectangle that it is given. -/
def StaysWithin (c : Content) (area : Rect) (style : BubbleStyle) : Prop :=
  ∀ b, Changes b (fun x y cell cell' => area.Covers x y ∨ cell' = cell) (c.draw area style b)

/-- So does every text of glyphs with one column. -/
theorem staysWithin_of_narrow {c : Content} {lines : List Line} (hLines : c.lines? = some lines)
    (hGlyphs : ∀ l ∈ lines, ∀ g ∈ l.glyphs {}, g.width = 1) (area : Rect) (style : BubbleStyle) :
    c.StaysWithin area style := by
  intro b
  unfold draw
  split
  · exact .refl (fun _ _ _ => .inr rfl) b
  · cases c with
    | plain text =>
      obtain rfl := Option.some.inj hLines
      exact Paragraph.draw_within_of_narrow hGlyphs
    | rich lines' =>
      obtain rfl := Option.some.inj hLines
      exact Paragraph.draw_within_of_narrow hGlyphs
    | custom view => cases hLines

/-- The glyphs of plain text have no background of their own. -/
theorem linesOf_background (text : String) : ∀ l ∈ linesOf text, ∀ g ∈ l.glyphs {}, g.style.bg = none := by
  intro l hl g hg
  obtain ⟨s, -, rfl⟩ := List.mem_map.mp hl
  obtain ⟨span, hSpan, hIn⟩ := List.mem_flatMap.mp hg
  obtain rfl := List.mem_singleton.mp hSpan
  obtain ⟨symbol, -, rfl⟩ := List.mem_map.mp hIn
  rfl

/-- Plain text has the background of its bubble and no other. -/
theorem draw_plain_background (text : String) (area : Rect) (style : BubbleStyle) (b : Buffer) :
    Changes b (fun _ _ cell cell' => cell.bg = style.backgroundColor → cell'.bg = style.backgroundColor)
      ((plain text).draw area style b) := by
  unfold draw
  split
  · exact .refl (fun _ _ _ h => h) b
  · refine (Paragraph.draw_background (linesOf_background text)).imp fun {x y c c'} hKept hHere => ?_
    rw [hKept, hHere]
    exact ite_self _

end Content

namespace Bubble

open Layout

/-! ## The arrow -/

section arrow

variable {arrow : Bounds} {area : Rect} {b : Buffer}

/-- An arrow of which something is to be seen is so near the screen that no sum of its edges is cut. -/
theorem edges_of_clip (hSeen : (arrow.clip area).isNone = false) :
    (1 ≤ arrow.width.toNat ∧ -65535 < arrow.left.toInt ∧ arrow.left.toInt < 65535 ∧
      arrow.right.toInt = arrow.left.toInt + arrow.width.toNat) ∧
    1 ≤ arrow.height.toNat ∧ -65535 < arrow.top.toInt ∧ arrow.top.toInt < 65535 ∧
      arrow.bottom.toInt = arrow.top.toInt + arrow.height.toNat := by
  have hWidth := arrow.width.toNat_lt
  have hHeight := arrow.height.toNat_lt
  have hRight := area.right_le
  have hBottom := area.bottom_le
  have hLeftLow := Int32.le_toInt arrow.x
  have hTopLow := Int32.le_toInt arrow.y
  have hEndX : arrow.right.toInt = max (-0x80000000) (min (arrow.left.toInt + arrow.width.toNat) 0x7FFFFFFF) :=
    toInt_saturate _
  have hEndY : arrow.bottom.toInt = max (-0x80000000) (min (arrow.top.toInt + arrow.height.toNat) 0x7FFFFFFF) :=
    toInt_saturate _
  have hLeft : (-0x80000000 : Int) ≤ arrow.left.toInt := hLeftLow
  have hTop : (-0x80000000 : Int) ≤ arrow.top.toInt := hTopLow
  unfold Bounds.clip Bounds.clipEdges at hSeen
  dsimp only at hSeen
  split at hSeen
  · cases hSeen
  · -- an edge that is cut lies beyond every area, and then nothing is to be seen
    omega

/-- A visible cell is painted in itself. -/
theorem paintCell_repaints {x y : Int} (hX : -0x20000 ≤ x ∧ x ≤ 0x20000) (hY : -0x20000 ≤ y ∧ y ≤ 0x20000)
    (symbol : String) (color : Color) :
    Repaints b (fun x' y' c => if area.Covers x' y' ∧ (x' : Int) = x ∧ (y' : Int) = y
      then { c with symbol := symbol, fg := color } else c) (paintCell b area x y symbol color) := by
  refine (mapBounds_repaints b area _ _).congr fun x' y' _ _ c => ?_
  -- so near to the screen no coordinate wraps around
  have hOf : ∀ z : Int, -0x20000 ≤ z ∧ z ≤ 0x20000 → (Int32.ofInt z).toInt = z := by
    intro z hz
    rw [Int32.toInt_ofInt]
    simp only [Int.bmod_def, Int32.size]
    omega
  have hCell : (Bounds.mk (.ofInt x) (.ofInt y) 1 1).Covers x' y' ↔ (x' : Int) = x ∧ (y' : Int) = y := by
    unfold Bounds.Covers Bounds.left Bounds.right Bounds.top Bounds.bottom
    rw [toInt_saturate, toInt_saturate, hOf x hX, hOf y hY, UInt16.toNat_one]
    -- one column and one row: between the edges is one cell
    omega
  simp only [hCell]

/-- What an arrow may do to a cell: it is in the arrow's bounds, and only symbol and foreground are changed. -/
def Pointed (area : Rect) (arrow : Bounds) (x y : Nat) (c c' : Cell) : Prop :=
  c' = c ∨ (area.Covers x y ∧ arrow.Covers x y) ∧ c'.bg = c.bg ∧ c'.attrs = c.attrs

theorem pointed_lasting (area : Rect) (arrow : Bounds) : Lasting (Pointed area arrow) where
  refl := fun _ _ _ => .inl rfl
  trans := by
    rintro x y c c' c'' (rfl | ⟨hCovers, hBg, hAttrs⟩) hSecond
    · exact hSecond
    · rcases hSecond with rfl | ⟨-, hBg', hAttrs'⟩
      · exact .inr ⟨hCovers, hBg, hAttrs⟩
      · exact .inr ⟨hCovers, hBg'.trans hBg, hAttrs'.trans hAttrs⟩

/-- A row of an arrow has a cell at least, and no more than the arrow has columns. -/
theorem arrowSpan_bounds {width : Nat} (hWidth : 1 ≤ width) (height row : Nat) :
    1 ≤ arrowSpan width height row ∧ arrowSpan width height row ≤ width := by
  unfold arrowSpan
  omega

/-- The painted cells of a row lie between the arrow's sides. -/
theorem arrowStart_bounds (hSeen : (arrow.clip area).isNone = false) {span : Nat} (hSpan : span ≤ arrow.width.toNat) :
    arrow.left.toInt ≤ arrowStart arrow span ∧ arrowStart arrow span + span ≤ arrow.right.toInt := by
  obtain ⟨⟨hWidth, hLow, hHigh, hRight⟩, -⟩ := edges_of_clip hSeen
  have hExtent := arrow.width.toNat_lt
  have hCenter : arrow.centerX.toInt =
      max (-0x80000000) (min (arrow.left.toInt + (arrow.width.toNat / 2 : Nat)) 0x7FFFFFFF) := toInt_saturate _
  unfold arrowStart
  omega

/-- The rows of an arrow lie between its top and its bottom. -/
theorem arrowLine_bounds (hSeen : (arrow.clip area).isNone = false) (direction : ArrowDirection) {row : Nat}
    (hRow : row < arrow.height.toNat) :
    arrow.top.toInt ≤ arrowLine arrow direction row ∧ arrowLine arrow direction row < arrow.bottom.toInt := by
  obtain ⟨-, -, -, -, hBottom⟩ := edges_of_clip hSeen
  unfold arrowLine
  cases direction <;> dsimp only <;> omega

/-- An arrow is painted within its bounds, and leaves the background and the attributes of what is behind it. -/
theorem drawArrow_changes (area : Rect) (arrow : Bounds) (direction : ArrowDirection) (color : Color) :
    Changes b (Pointed area arrow) (drawArrow b area arrow direction color) := by
  unfold drawArrow
  split
  · exact .refl (pointed_lasting area arrow).refl b
  · next hSome =>
    have hSeen : (arrow.clip area).isNone = false := Bool.eq_false_iff.mpr hSome
    obtain ⟨⟨hWidth, hLeftLow, hLeftHigh, hRight⟩, hHeight, hTopLow, hTopHigh, hBottom⟩ := edges_of_clip hSeen
    have hExtentX := arrow.width.toNat_lt
    have hExtentY := arrow.height.toNat_lt
    -- by induction on the rows, and on the cells of a row
    refine .foldl (pointed_lasting area arrow) (fun b row hRow => ?_) b
    unfold drawArrowRow
    refine .foldl (pointed_lasting area arrow) (fun b column hColumn => ?_) b
    obtain ⟨-, hSpan⟩ := arrowSpan_bounds hWidth arrow.height.toNat row
    have hStart := arrowStart_bounds hSeen hSpan
    have hLine := arrowLine_bounds hSeen direction (List.mem_range.mp hRow)
    have hInRow := List.mem_range.mp hColumn
    refine (paintCell_repaints (by omega) (by omega) _ _).changes fun x y c => ?_
    split
    · next hHere =>
      obtain ⟨hCovers, hX, hY⟩ := hHere
      refine .inr ⟨⟨hCovers, ?_⟩, rfl, rfl⟩
      unfold Bounds.Covers
      omega
    · exact .inl rfl

end arrow

/-! ## The other layers -/

variable {b : Buffer} {area : Rect} {bubble : Bounds} {style : BubbleStyle}

theorem shade_keeps (color : Color) (opacity : Float32) (c : Cell) :
    (c.shade color opacity).symbol = c.symbol ∧ (c.shade color opacity).attrs = c.attrs := by
  unfold Cell.shade
  dsimp only
  split <;> exact ⟨rfl, rfl⟩

/-- A shadow is cast beside the bubble, and changes colors only. -/
theorem drawShadow_changes (b : Buffer) (area : Rect) (bubble : Bounds) (style : BubbleStyle) (shadow : ShadowStyle) :
    Changes b (fun x y c c' => c' = c ∨
        (area.Covers x y ∧ (bubble.moveBy shadow.offset.x shadow.offset.y).Covers x y) ∧
          c'.symbol = c.symbol ∧ c'.attrs = c.attrs)
      (drawShadow b area bubble style shadow) := by
  refine (mapBounds_repaints b area _ _).changes fun x y c => ?_
  split
  · next hCovers =>
    split
    · exact .inl rfl
    · exact .inr ⟨hCovers, shade_keeps _ _ _⟩
  · exact .inl rfl

/-- The body of a bubble fills the bubble, but for its round corners. -/
theorem drawBody_repaints (b : Buffer) (area : Rect) (bubble : Bounds) (style : BubbleStyle) :
    Repaints b (fun x y c =>
        if (area.Covers x y ∧ bubble.Covers x y) ∧ isClippedCorner bubble style.cornerRadius x y = false
        then { symbol := " ", fg := style.textColor, bg := style.backgroundColor } else c)
      (drawBody b area bubble style) := by
  refine (mapBounds_repaints b area bubble _).congr fun x y _ _ c => ?_
  by_cases hCovers : area.Covers x y ∧ bubble.Covers x y
  · cases isClippedCorner bubble style.cornerRadius x y <;> simp [hCovers]
  · rw [if_neg hCovers, if_neg fun h => hCovers h.1]

/-- What is between two insets is between the edges. -/
theorem between_of_inset {x : Int32} {extent first last : UInt16} {cell : Nat}
    (hBegin : (saturate (x.toInt + first.toNat)).toInt ≤ cell)
    (hEnd : (cell : Int) < (saturate ((saturate (x.toInt + first.toNat)).toInt +
      (UInt16.ofNat (extent.toNat - (saturate16 (first.toNat + last.toNat)).toNat)).toNat)).toInt) :
    x.toInt ≤ cell ∧ (cell : Int) < (saturate (x.toInt + extent.toNat)).toInt := by
  have hExtent := extent.toNat_lt
  have hHigh := Int32.toInt_lt x
  rw [toNat_inset_extent] at hEnd
  -- insets that do not fit leave no extent; if they fit, a cell before the cut sum is before the true one
  rw [toInt_saturate] at hBegin hEnd ⊢
  rw [toInt_saturate] at hEnd
  omega

/-- The rectangle of the content lies in the area and in the bubble. -/
theorem covers_of_inset {r : Rect} (hr : r ∈ (insetBounds bubble style).clip area) {x y : Nat} (hCovers : r.Covers x y) :
    area.Covers x y ∧ bubble.Covers x y := by
  obtain ⟨hArea, hLeft, hRight, hTop, hBottom⟩ := (Bounds.covers_clip _ area x y).mp ⟨r, hr, hCovers⟩
  obtain ⟨hLeft', hRight'⟩ := between_of_inset hLeft hRight
  exact ⟨hArea, hLeft', hRight', between_of_inset hTop hBottom⟩

/-! ## The picture -/

namespace View

/-- The bounds of the bubble, if it is to be seen. -/
def shownAt (v : View) (now : Nanos) : Option Bounds := if v.visible then v.frameAt now else none

/-- The cells that the bubble, its shadow and its arrow may cover. -/
def Reaches (v : View) (bubble : Bounds) (now : Nanos) (x y : Nat) : Prop :=
  bubble.Covers x y ∨
    (∃ shadow ∈ v.style.shadow, (bubble.moveBy shadow.offset.x shadow.offset.y).Covers x y) ∨
      ∃ arrow ∈ v.arrowAt now, arrow.bounds.Covers x y

variable {v : View} {content : Content} {now : Nanos}

theorem draw_of_unseen (h : v.shownAt now = none) (content : Content) (area : Rect) (b : Buffer) :
    (v.draw content area b now).2 = b := by
  unfold shownAt at h
  unfold draw
  cases hVisible : v.visible with
  | false => rfl
  | true =>
    rw [hVisible] at h
    have hFrame : v.frameAt now = none := h
    rw [hFrame]

/-- The four layers, one over the other. -/
theorem draw_eq (h : v.shownAt now = some bubble) (content : Content) (area : Rect) (b : Buffer) :
    (v.draw content area b now).2 =
      let behind := v.style.shadow.elim b fun shadow => drawShadow b area bubble v.style shadow
      let body := drawBody behind area bubble v.style
      let pointed := (v.arrowAt now).elim body fun arrow =>
        drawArrow body area arrow.bounds arrow.direction v.style.backgroundColor
      ((insetBounds bubble v.style).clip area).elim pointed fun r => content.draw r v.style pointed := by
  unfold shownAt at h
  split at h
  · next hVisible =>
    unfold draw
    rw [hVisible, h]
    dsimp only
    cases v.style.shadow <;> cases v.arrowAt now <;> cases (insetBounds bubble v.style).clip area <;> rfl
  · cases h

/-- What is said of the shadow is said of what is behind the body; what is said of the arrow and of the content is said
of what is in front of it. -/
theorem draw_layers {R S : Nat → Nat → Cell → Cell → Prop} (h : v.shownAt now = some bubble) (hR : ∀ x y c, R x y c c)
    (hS : Lasting S)
    (hShadow : ∀ shadow ∈ v.style.shadow, Changes b R (drawShadow b area bubble v.style shadow))
    (hArrow : ∀ arrow ∈ v.arrowAt now, ∀ b,
      Changes b S (drawArrow b area arrow.bounds arrow.direction v.style.backgroundColor))
    (hContent : ∀ r ∈ (insetBounds bubble v.style).clip area, ∀ b, Changes b S (content.draw r v.style b)) :
    ∃ behind, Changes b R behind ∧
      Changes (drawBody behind area bubble v.style) S (v.draw content area b now).2 := by
  rw [draw_eq h]
  have hPointed : ∀ body, Changes body S ((v.arrowAt now).elim body fun arrow =>
      drawArrow body area arrow.bounds arrow.direction v.style.backgroundColor) :=
    fun body => .elim hS.refl fun arrow hSome => hArrow arrow hSome body
  have hFilled : ∀ pointed, Changes pointed S
      (((insetBounds bubble v.style).clip area).elim pointed fun r => content.draw r v.style pointed) :=
    fun pointed => .elim hS.refl fun r hSome => hContent r hSome pointed
  exact ⟨_, .elim hR hShadow, (hPointed _).trans (hFilled _) hS.trans⟩

/-- What is said of every layer is said of the picture. -/
theorem draw_changes {R : Nat → Nat → Cell → Cell → Prop} (h : v.shownAt now = some bubble) (hR : Lasting R)
    (hShadow : ∀ shadow ∈ v.style.shadow, Changes b R (drawShadow b area bubble v.style shadow))
    (hBody : ∀ x y c c', area.Covers x y ∧ bubble.Covers x y → R x y c c')
    (hArrow : ∀ arrow ∈ v.arrowAt now, ∀ b,
      Changes b R (drawArrow b area arrow.bounds arrow.direction v.style.backgroundColor))
    (hContent : ∀ r ∈ (insetBounds bubble v.style).clip area, ∀ b, Changes b R (content.draw r v.style b)) :
    Changes b R (v.draw content area b now).2 := by
  -- behind the body, the body, and in front of it
  obtain ⟨behind, hBehind, hFront⟩ := draw_layers h hR.refl hR hShadow hArrow hContent
  have hFilled : Changes behind R (drawBody behind area bubble v.style) := by
    refine (drawBody_repaints behind area bubble v.style).changes fun x y c => ?_
    split
    · next hInside => exact hBody x y _ _ hInside.1
    · exact hR.refl x y c
  exact (hBehind.trans hFilled hR.trans).trans hFront hR.trans

/-- What a bubble leaves of a buffer, and what it makes of it. -/
structure Pictured (v : View) (content : Content) (area : Rect) (now : Nanos) (bubble : Bounds) (b b' : Buffer) : Prop where
  /-- Only cells of the area change that the bubble, its shadow or its arrow covers. -/
  within : ∀ x y, ¬ (area.Covers x y ∧ v.Reaches bubble now x y) → b'.cell? x y = b.cell? x y
  /-- With plain text, the bubble is filled with its background, but for its round corners. -/
  filled : ∀ text, content = .plain text → ∀ x y, area.Covers x y → bubble.Covers x y →
    isClippedCorner bubble v.style.cornerRadius x y = false → ∀ c ∈ b'.cell? x y, c.bg = v.style.backgroundColor
  /-- Beside the bubble and its arrow every cell keeps its symbol and its attributes. -/
  shaded : ∀ x y, ¬ bubble.Covers x y → (∀ arrow ∈ v.arrowAt now, ¬ arrow.bounds.Covers x y) →
    (b'.cell? x y).map (fun c => (c.symbol, c.attrs)) = (b.cell? x y).map (fun c => (c.symbol, c.attrs))

/-- Only cells of the area change that the bubble, its shadow or its arrow covers. -/
theorem draw_within (h : v.shownAt now = some bubble)
    (hContent : ∀ r ∈ (insetBounds bubble v.style).clip area, content.StaysWithin r v.style) :
    Changes b (fun x y c c' => area.Covers x y ∧ v.Reaches bubble now x y ∨ c' = c) (v.draw content area b now).2 := by
  refine draw_changes h (.beside _ (fun _ => rfl) fun hFirst hSecond => hSecond.trans hFirst) ?_ ?_ ?_ ?_
  · intro shadow hShadow
    refine (drawShadow_changes b area bubble v.style shadow).imp ?_
    rintro x y c c' (hSame | ⟨⟨hArea, hCast⟩, -⟩)
    · exact .inr hSame
    · exact .inl ⟨hArea, .inr (.inl ⟨shadow, hShadow, hCast⟩)⟩
  · rintro x y c c' ⟨hArea, hBubble⟩
    exact .inl ⟨hArea, .inl hBubble⟩
  · intro arrow hArrow b
    refine (drawArrow_changes area arrow.bounds arrow.direction _).imp ?_
    rintro x y c c' (hSame | ⟨⟨hArea, hCovers⟩, -⟩)
    · exact .inr hSame
    · exact .inl ⟨hArea, .inr (.inr ⟨arrow, hArrow, hCovers⟩)⟩
  · intro r hr b
    refine (hContent r hr b).imp ?_
    rintro x y c c' (hCovers | hSame)
    · obtain ⟨hArea, hBubble⟩ := covers_of_inset hr hCovers
      exact .inl ⟨hArea, .inl hBubble⟩
    · exact .inr hSame

/-- Beside the bubble and its arrow every cell keeps its symbol and its attributes. -/
theorem draw_shaded (h : v.shownAt now = some bubble)
    (hContent : ∀ r ∈ (insetBounds bubble v.style).clip area, content.StaysWithin r v.style) :
    Changes b (fun x y c c' => (bubble.Covers x y ∨ ∃ arrow ∈ v.arrowAt now, arrow.bounds.Covers x y) ∨
      (c'.symbol, c'.attrs) = (c.symbol, c.attrs)) (v.draw content area b now).2 := by
  refine draw_changes h (.beside _ (fun _ => rfl) fun hFirst hSecond => hSecond.trans hFirst) ?_ ?_ ?_ ?_
  · intro shadow _
    refine (drawShadow_changes b area bubble v.style shadow).imp ?_
    rintro x y c c' (rfl | ⟨-, hSymbol, hAttrs⟩)
    · exact .inr rfl
    · exact .inr (Prod.ext hSymbol hAttrs)
  · rintro x y c c' ⟨-, hBubble⟩
    exact .inl (.inl hBubble)
  · intro arrow hArrow b
    refine (drawArrow_changes area arrow.bounds arrow.direction _).imp ?_
    rintro x y c c' (rfl | ⟨⟨-, hCovers⟩, -⟩)
    · exact .inr rfl
    · exact .inl (.inr ⟨arrow, hArrow, hCovers⟩)
  · intro r hr b
    refine (hContent r hr b).imp ?_
    rintro x y c c' (hCovers | rfl)
    · exact .inl (.inl (covers_of_inset hr hCovers).2)
    · exact .inr rfl

/-- With plain text, the bubble is filled with its background, but for its round corners. -/
theorem draw_filled (h : v.shownAt now = some bubble) (text : String) {x y : Nat} (hArea : area.Covers x y)
    (hBubble : bubble.Covers x y) (hCorner : isClippedCorner bubble v.style.cornerRadius x y = false) :
    ∀ c ∈ (v.draw (.plain text) area b now).2.cell? x y, c.bg = v.style.backgroundColor := by
  intro c hc
  -- the body has the background, and what is in front of it keeps it
  have hLasting : Lasting fun _ _ (c c' : Cell) => c.bg = v.style.backgroundColor → c'.bg = v.style.backgroundColor :=
    ⟨fun _ _ _ h => h, fun hFirst hSecond h => hSecond (hFirst h)⟩
  have hArrow : ∀ arrow ∈ v.arrowAt now, ∀ body, Changes body
      (fun _ _ c c' => c.bg = v.style.backgroundColor → c'.bg = v.style.backgroundColor)
      (drawArrow body area arrow.bounds arrow.direction v.style.backgroundColor) := by
    intro arrow _ body
    refine (drawArrow_changes area arrow.bounds arrow.direction _).imp ?_
    rintro x y c c' (rfl | ⟨-, hBg, -⟩) hHere
    · exact hHere
    · exact hBg.trans hHere
  have hShadow : ∀ shadow ∈ v.style.shadow,
      Changes b (fun _ _ _ _ => True) (drawShadow b area bubble v.style shadow) :=
    fun shadow _ => (drawShadow_changes b area bubble v.style shadow).imp fun _ => trivial
  obtain ⟨behind, -, hFront⟩ := draw_layers h (fun _ _ _ => trivial) hLasting hShadow hArrow
    fun r _ body => Content.draw_plain_background text r v.style body
  obtain ⟨body, hBody, hKept⟩ := hFront.reached hc
  refine hKept ?_
  rw [(drawBody_repaints behind area bubble v.style).cell?_eq] at hBody
  obtain ⟨cell, -, rfl⟩ := Option.map_eq_some_iff.mp hBody
  rw [if_pos ⟨⟨hArea, hBubble⟩, hCorner⟩]

/-- A bubble that is to be seen is kept within its own cells, those of its shadow and those of its arrow, wherever they
lie, if its content stays within the insets; one that is not leaves the buffer as it is. -/
theorem picture_within (v : View) (content : Content) (area : Rect) (b : Buffer) (now : Nanos)
    (hContent : ∀ bubble ∈ v.shownAt now, ∀ r ∈ (insetBounds bubble v.style).clip area,
      content.StaysWithin r v.style) :
    let b' := (v.draw content area b now).2
    b'.area = b.area ∧
      match v.shownAt now with
      | none => b' = b
      | some bubble => v.Pictured content area now bubble b b' := by
  dsimp only
  cases hShown : v.shownAt now with
  | none =>
    rw [draw_of_unseen hShown]
    exact ⟨rfl, rfl⟩
  | some bubble =>
    have hWithin := draw_within (b := b) hShown (hContent bubble hShown)
    refine ⟨hWithin.area, ?_, ?_, ?_⟩
    · intro x y hOutside
      exact hWithin.kept fun c c' hAllowed => hAllowed.resolve_left hOutside
    · rintro text rfl x y hArea hBubble hCorner
      exact draw_filled hShown text hArea hBubble hCorner
    · intro x y hBubble hArrow
      have hCell := (draw_shaded (b := b) hShown (hContent bubble hShown)).cell x y
      revert hCell
      cases b.cell? x y <;> cases (v.draw content area b now).2.cell? x y <;> rintro ⟨⟩
      · rfl
      · next hAllowed =>
        -- the cell is neither the bubble's nor the arrow's, so at most a shadow has been cast on it
        refine congrArg some (hAllowed.resolve_left ?_)
        rintro (hHere | ⟨arrow, hSome, hHere⟩)
        · exact hBubble hHere
        · exact hArrow arrow hSome hHere

/-- A bubble with a shadow and an arrow that begins left of the screen. -/
theorem picture_within_edge :
    let v : View := { style := .white, margin := 0, preferredWidth := none, transition := 0, visible := true,
                      frame := some (.settled ⟨-2, 2, 14, 4⟩ 0), arrow := some (.settled ⟨3, 1, 3, 1⟩ 0),
                      direction := some .up }
    let content : Content := .plain "Hi there"
    let area : Rect := ⟨0, 0, 20, 10⟩
    v.shownAt 5 = some ⟨-2, 2, 14, 4⟩ ∧
      (∀ r ∈ (insetBounds ⟨-2, 2, 14, 4⟩ v.style).clip area, content.StaysWithin r v.style) ∧
      v.Pictured content area 5 ⟨-2, 2, 14, 4⟩ (.blank area) (v.draw content area (.blank area) 5).2 := by
  intro v content area
  have hShown : v.shownAt 5 = some ⟨-2, 2, 14, 4⟩ := congrArg some (Motion.Tween.valueAt_settled _ _ _)
  have hNarrow : ∀ l ∈ linesOf "Hi there", ∀ g ∈ l.glyphs {}, g.width = 1 := by decide +kernel
  have hContent : ∀ bubble ∈ v.shownAt 5, ∀ r ∈ (insetBounds bubble v.style).clip area,
      content.StaysWithin r v.style :=
    fun _ _ r _ => Content.staysWithin_of_narrow rfl hNarrow r v.style
  have hPicture := (picture_within v content area (.blank area) 5 hContent).2
  rw [hShown] at hPicture
  exact ⟨hShown, hContent _ hShown, hPicture⟩

end View

end Bubble

end GuidedTour
