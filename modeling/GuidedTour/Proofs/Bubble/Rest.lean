import GuidedTour.Proofs.Bubble.Destination
import GuidedTour.Proofs.Motion.Rest
import GuidedTour.Proofs.Screen.Coverage

/-!
# Bubbles that stay

A frame places the bubble of a step. The next frame over the same screen finds everything in its place: it solves the
same constraints, reports the same failure or the same place, and leaves the bubble exactly as it is, whatever the clock
says by then. What time alone changes are the bounds of the bubble and its arrow on their way and the arrow's direction
before its turn, and `isAnimating` covers all three.

Main results:

* `layout_laid` / `Laid.layout` - a frame leaves the bubble such that the next one changes nothing.
* `AtRest.draw_eq` - at rest a bubble is drawn the same at every reading of the clock.
* `rest_later` - a bubble that needs no animation has come to rest for good.
-/

namespace GuidedTour

open Layout Motion Screen

namespace Bubble.View

/-! ## Bubbles at rest -/

/-- The bubble and its arrow have arrived, and the arrow has turned. -/
structure AtRest (v : View) (now : Nanos) : Prop where
  frame : ∀ t ∈ v.frame, t.progress now = 1
  arrow : ∀ t ∈ v.arrow, t.progress now = 1
  flip  : ∀ f ∈ v.flip, f.when ≤ now

section Rest

variable {v : View} {placed : BubbleLayout} {now : Nanos}

/-- At rest the bubble is where it was sent, and so is its arrow. -/
theorem AtRest.frameAt (h : v.AtRest now) : v.frameAt now = v.frame.map (·.target) :=
  Option.map_congr fun t hFrame => Tween.valueAt_of_rest (h.frame t hFrame)

theorem AtRest.directionAt (h : v.AtRest now) : v.directionAt now = v.direction := by
  unfold View.directionAt
  cases hFlip : v.flip with
  | none => rfl
  | some f => exact if_neg (Nat.not_lt.mpr (h.flip f hFlip))

theorem AtRest.arrowAt (h : v.AtRest now) :
    v.arrowAt now = v.arrow.bind fun t => v.direction.map fun direction => ⟨t.target, direction⟩ := by
  unfold View.arrowAt
  rw [h.directionAt]
  cases hArrow : v.arrow with
  | none => rfl
  | some t =>
    have hThere := Tween.valueAt_of_rest (h.arrow t hArrow)
    cases v.direction with
    | none => rfl
    | some direction => exact congrArg (fun bounds => some (ArrowLayout.mk bounds direction)) hThere

theorem frameAt_of_rest (hSent : v.SentTo placed) (hRest : v.AtRest now) : v.frameAt now = some placed.bubble :=
  hRest.frameAt.trans hSent.frame

theorem arrowAt_of_rest (hSent : v.SentTo placed) (hRest : v.AtRest now) : v.arrowAt now = placed.arrow := by
  have hArrow := hSent.arrow
  rw [hRest.arrowAt, hSent.direction]
  cases hPlaced : placed.arrow with
  | none =>
    rw [hPlaced, Option.map_none, Option.map_eq_none_iff] at hArrow
    rw [hArrow]
    rfl
  | some arrow =>
    rw [hPlaced, Option.map_some] at hArrow
    obtain ⟨t, hTween, hTarget⟩ := Option.map_eq_some_iff.mp hArrow
    rw [hTween]
    exact congrArg (fun bounds => some (ArrowLayout.mk bounds arrow.direction)) hTarget

/-- What a bubble at rest looks like follows from its style and its place. -/
theorem draw_of_rest {w : View} {later : Nanos} (hStyle : v.style = w.style) (hSent : v.SentTo placed)
    (hRest : v.AtRest now) (hSent' : w.SentTo placed) (hRest' : w.AtRest later) (content : Content) (area : Rect)
    (b : Buffer) : (v.draw content area b now).2 = (w.draw content area b later).2 := by
  unfold draw
  rw [hSent.visible, hSent'.visible, frameAt_of_rest hSent hRest, frameAt_of_rest hSent' hRest',
    arrowAt_of_rest hSent hRest, arrowAt_of_rest hSent' hRest', hStyle]

/-- At rest a bubble is drawn the same at every reading of the clock. -/
theorem AtRest.draw_eq {later : Nanos} (h : v.AtRest now) (h' : v.AtRest later) (content : Content) (area : Rect)
    (b : Buffer) : v.draw content area b later = v.draw content area b now := by
  unfold View.draw
  rw [h.frameAt, h'.frameAt, h.arrowAt, h'.arrowAt]

/-- Nothing of the bubble is on its way, and its arrow has no turn before it. -/
theorem isAnimating_eq_false : v.isAnimating now = false ↔
    (∀ t ∈ v.frame, t.isRunning now = false) ∧ (∀ t ∈ v.arrow, t.isRunning now = false) ∧
      ∀ f ∈ v.flip, f.when ≤ now := by
  simp only [View.isAnimating, Bool.or_eq_false_iff, Option.any_eq_false, decide_eq_false_iff_not,
    Nat.not_lt, and_assoc, Option.mem_def]

theorem AtRest.isAnimating (h : v.AtRest now) : v.isAnimating now = false :=
  isAnimating_eq_false.mpr ⟨fun t hFrame => Tween.isRunning_of_rest (h.frame t hFrame),
    fun t hArrow => Tween.isRunning_of_rest (h.arrow t hArrow), h.flip⟩

/-- The courses that a bubble and its arrow are on. -/
def courses (v : View) : List Course := v.frame.toList.map (·.course) ++ v.arrow.toList.map (·.course)

/-- A bubble that needs no animation has come to rest for good. -/
theorem rest_later {later : Nanos} (hOrder : ∀ c ∈ v.courses, c.KeepsOrder now later) (hLater : now ≤ later)
    (hStill : v.isAnimating now = false) : v.AtRest now ∧ v.AtRest later := by
  obtain ⟨hFrame, hArrow, hFlip⟩ := isAnimating_eq_false.mp hStill
  have hOwn : ∀ t, t ∈ v.frame ∨ t ∈ v.arrow → t.course ∈ v.courses := by
    rintro t (ht | ht)
    · exact List.mem_append_left _ (List.mem_map_of_mem (Option.mem_toList.mpr ht))
    · exact List.mem_append_right _ (List.mem_map_of_mem (Option.mem_toList.mpr ht))
  have hFrameRest := fun t ht => Tween.rest_later (hOrder _ (hOwn t (.inl ht))) hLater (hFrame t ht)
  have hArrowRest := fun t ht => Tween.rest_later (hOrder _ (hOwn t (.inr ht))) hLater (hArrow t ht)
  constructor
  · exact ⟨fun t ht => (hFrameRest t ht).1, fun t ht => (hArrowRest t ht).1, hFlip⟩
  · exact ⟨fun t ht => (hFrameRest t ht).2, fun t ht => (hArrowRest t ht).2, fun f hf => (hFlip f hf).trans hLater⟩

end Rest

/-- Drawing a bubble leaves it on its way. -/
theorem SentTo.draw {v : View} {placed : BubbleLayout} (h : v.SentTo placed) (content : Content) (area : Rect)
    (b : Buffer) (now : Nanos) : (v.draw content area b now).1.SentTo placed := by
  obtain ⟨drawn, hDrawn⟩ := v.draw_keeps content area b now
  rw [hDrawn]
  exact ⟨h.visible, h.frame, h.arrow, h.direction⟩

variable {v : View} {step : Step} {ctx : Context}

/-! ## Frames that change nothing -/

/-- A bubble that has a place looks for the next one with the constraints that it would keep. -/
theorem layout_of_framed {start : Tween Bounds} (hFrame : v.frame = some start) (now : Nanos) :
    v.layout step ctx now =
      match (v.readied start step ctx).place (v.bubbleSize step.content ctx.container) ctx with
      | .error e => ({ v.readied start step ctx with visible := v.visible && !v.needsConfigure }, .error e)
      | .ok placed =>
        ({ (v.readied start step ctx).sendTo placed now v.course with needsConfigure := false, visible := true },
          .ok placed) := by
  obtain ⟨_, _, _, _, _, needsConfigure, _, frame, _, _, _, _, _⟩ := v
  obtain rfl : frame = some start := hFrame
  cases needsConfigure <;> rfl

/-- A bubble that is ready for a step need not be made ready for it. -/
theorem readied_again {start : Tween Bounds} (hFrame : v.frame = some start)
    (hReady : v.needsConfigure = true → v.constraints = stepConstraints step v.style v.margin ctx) :
    v.readied start step ctx = v := by
  obtain ⟨style, margin, _, _, constraints, needsConfigure, _, frame, _, _, _, _, _⟩ := v
  obtain rfl : frame = some start := hFrame
  cases needsConfigure with
  | false => rfl
  | true =>
    obtain rfl : constraints = stepConstraints step style margin ctx := hReady rfl
    rfl

/-- A bubble that is sent once more to where it is going goes on as it does. -/
theorem sendTo_again {placed : BubbleLayout} (hSent : v.SentTo placed) (hFlip : placed.arrow = none → v.flip = none)
    (now : Nanos) : v.sendTo placed now none = v := by
  obtain ⟨bubble, arrow⟩ := placed
  obtain ⟨t, hFrame, rfl⟩ := Option.map_eq_some_iff.mp hSent.frame
  have hTurn := hSent.direction
  obtain ⟨_, _, _, _, _, _, _, frame, course, direction, flip, _, _⟩ := v
  obtain rfl : frame = some t := hFrame
  cases arrow with
  | none =>
    obtain rfl : course = none := Option.map_eq_none_iff.mp hSent.arrow
    obtain rfl : direction = none := hTurn
    obtain rfl : flip = none := hFlip rfl
    rfl
  | some arrow =>
    obtain ⟨bounds, there⟩ := arrow
    obtain ⟨a, hArrow, hBounds⟩ := Option.map_eq_some_iff.mp hSent.arrow
    obtain rfl : course = some a := hArrow
    obtain rfl : a.target = bounds := hBounds
    obtain rfl : direction = some there := hTurn
    -- without a course the arrow has no reason to turn, wherever it points now
    unfold sendTo moveArrow
    dsimp only
    split
    · next hNever => cases hNever
    · rfl

/-- The search for a place depends on the look of the bubble and on its constraints. -/
theorem place_congr {w : View} (hOutfit : v.outfit = w.outfit) (hConstraints : v.constraints = w.constraints)
    (content : Content) (ctx : Context) : v.place (v.bubbleSize content ctx.container) ctx =
      w.place (w.bubbleSize content ctx.container) ctx := by
  have hStyle : v.style = w.style := (outfit_inj hOutfit).1
  rw [bubbleSize_congr hOutfit]
  unfold place
  rw [hStyle, hConstraints]

/-- What a frame of a step leaves of a bubble, by what it answered. -/
inductive Laid (v : View) (step : Step) (ctx : Context) : Except PlacementError BubbleLayout → Prop
  /-- A bubble that could not be placed keeps its constraints; if the step is new, it is not seen. -/
  | failed {start : Tween Bounds} {e : PlacementError} (hFrame : v.frame = some start)
      (hReady : v.needsConfigure = true → v.constraints = stepConstraints step v.style v.margin ctx)
      (hHidden : v.needsConfigure = true → v.visible = false)
      (hPlace : v.place (v.bubbleSize step.content ctx.container) ctx = .error e) : Laid v step ctx (.error e)
  /-- A bubble that was placed is on its way there, and has the constraints of its step. -/
  | placed {placed : BubbleLayout} (hSent : v.SentTo placed) (hFlip : placed.arrow = none → v.flip = none)
      (hConfigured : v.needsConfigure = false)
      (hPlace : v.place (v.bubbleSize step.content ctx.container) ctx = .ok placed) : Laid v step ctx (.ok placed)

/-- The next frame leaves the bubble as it is and answers the same. -/
theorem Laid.layout {answer : Except PlacementError BubbleLayout} (h : v.Laid step ctx answer) (now : Nanos) :
    v.layout step ctx now = (v, answer) := by
  cases h with
  | failed hFrame hReady hHidden hPlace =>
    have hVisible : (v.visible && !v.needsConfigure) = v.visible := by
      cases hConfigure : v.needsConfigure with
      | false => exact Bool.and_true _
      | true => rw [hHidden hConfigure, Bool.false_and]
    rw [layout_of_framed hFrame, readied_again hFrame hReady, hPlace]
    dsimp only
    rw [hVisible]
  | placed hSent hFlip hConfigured hPlace =>
    obtain ⟨t, hFrame, -⟩ := Option.map_eq_some_iff.mp hSent.frame
    have hReady : v.readied t step ctx = v :=
      readied_again hFrame fun hMarked => absurd (hConfigured.symm.trans hMarked) Bool.false_ne_true
    have hCourse : v.course = none := if_neg (by rw [hConfigured]; exact Bool.false_ne_true)
    rw [layout_of_framed hFrame, hReady, hPlace, hCourse]
    dsimp only
    rw [sendTo_again hSent hFlip, ← hConfigured, ← hSent.visible]

/-- Every frame leaves the bubble so. -/
theorem layout_laid (v : View) (step : Step) (ctx : Context) (now : Nanos) :
    (v.layout step ctx now).1.Laid step ctx (v.layout step ctx now).2 := by
  have hSent := @layout_sent v step ctx now
  obtain ⟨start, ⟨e, hPlace, hLayout⟩ | ⟨placed, hPlace, hLayout⟩⟩ := v.layout_cases step ctx now
  · -- the constraints of the step were taken before the search failed
    rw [hLayout]
    refine .failed rfl (fun hMarked => if_pos hMarked) (fun hMarked => ?_) hPlace
    show (v.visible && !v.needsConfigure) = false
    rw [show v.needsConfigure = true from hMarked]
    exact Bool.and_false _
  · rw [hLayout] at hSent ⊢
    obtain ⟨hOutfit, hConstraints⟩ := (v.readied start step ctx).sendTo_keeps placed now v.course
    refine .placed (hSent rfl) (fun hNone => ?_) rfl ((place_congr hOutfit hConstraints ..).trans hPlace)
    -- an arrow that is taken away takes its turn with it
    show ((v.readied start step ctx).sendTo placed now v.course).flip = none
    unfold sendTo moveArrow
    rw [hNone]

/-- Where a bubble was drawn last does not matter for the next frame. -/
theorem Laid.drawn {answer : Except PlacementError BubbleLayout} (h : v.Laid step ctx answer) (content : Content)
    (area : Rect) (b : Buffer) (now : Nanos) : (v.draw content area b now).1.Laid step ctx answer := by
  obtain ⟨drawn, hDrawn⟩ := v.draw_keeps content area b now
  have hSent := fun placed (hSent : v.SentTo placed) => hSent.draw content area b now
  rw [hDrawn] at hSent ⊢
  cases h with
  | failed hFrame hReady hHidden hPlace => exact .failed hFrame hReady hHidden hPlace
  | placed hSentTo hFlip hConfigured hPlace => exact .placed (hSent _ hSentTo) hFlip hConfigured hPlace

/-! ## Shrinking into a point -/

/-- The bubble is not seen, or it shrinks into a point, and so does its arrow. -/
def Shrinks (v : View) : Prop := v.visible = true → ∀ t, t ∈ v.frame ∨ t ∈ v.arrow → t.target.width = 0

theorem beginCollapse_shrinks (v : View) (now duration : Nanos) : (v.beginCollapse now duration).Shrinks := by
  unfold beginCollapse
  split
  · -- both are sent into a point
    rintro - t (hFrame | hArrow)
    · obtain rfl := Option.some.inj hFrame
      rw [Tween.target_send]
    · obtain ⟨a, -, rfl⟩ := Option.map_eq_some_iff.mp hArrow
      rw [Tween.target_send]
  · -- a bubble without a place is hidden at once
    intro hSeen
    cases hSeen

theorem Shrinks.drawn (h : v.Shrinks) (content : Content) (area : Rect) (b : Buffer) (now : Nanos) :
    (v.draw content area b now).1.Shrinks := by
  obtain ⟨drawn, hDrawn⟩ := v.draw_keeps content area b now
  rw [hDrawn]
  exact h

theorem mapBounds_of_narrow {bounds : Bounds} (hNarrow : bounds.width = 0) (b : Buffer) (area : Rect)
    (f : Nat → Nat → Cell → Cell) : mapBounds b area bounds f = b := by
  unfold mapBounds
  rw [Bounds.clip_of_narrow hNarrow]

theorem drawArrow_of_narrow {bounds : Bounds} (hNarrow : bounds.width = 0) (b : Buffer) (area : Rect)
    (direction : ArrowDirection) (color : Color) : drawArrow b area bounds direction color = b := by
  unfold drawArrow
  rw [Bounds.clip_of_narrow hNarrow]
  rfl

/-- Once it has shrunk away, there is nothing of the bubble to be drawn. -/
theorem Shrinks.draw_eq (h : v.Shrinks) {now : Nanos} (hRest : v.AtRest now) (content : Content) (area : Rect)
    (b : Buffer) : (v.draw content area b now).2 = b := by
  unfold View.draw
  rw [hRest.frameAt, hRest.arrowAt]
  cases hSeen : v.visible with
  | false => rfl
  | true =>
    cases hFrame : v.frame with
    | none => rfl
    | some t =>
      have hPoint : t.target.width = 0 := h hSeen t (.inl hFrame)
      -- the shadow is moved but not widened, and the inside is narrower still
      have hShadow : ∀ shadow, drawShadow b area t.target v.style shadow = b := fun shadow =>
        @mapBounds_of_narrow (t.target.moveBy shadow.offset.x shadow.offset.y) hPoint b area _
      have hBody : drawBody b area t.target v.style = b := mapBounds_of_narrow hPoint b area _
      have hInside : (insetBounds t.target v.style).clip area = none := by
        refine Bounds.clip_of_narrow ?_ area
        show UInt16.ofNat (t.target.width.toNat - _) = 0
        rw [hPoint]
        exact congrArg UInt16.ofNat (Nat.zero_sub _)
      have hArrow : ∀ a ∈ v.arrow, ∀ direction,
          drawArrow b area a.target direction v.style.backgroundColor = b := fun a ha direction =>
        drawArrow_of_narrow (h hSeen a (.inr ha)) b area direction _
      -- so each part leaves the buffer to the next as it was
      dsimp only [Option.map_some]
      rw [hInside]
      cases hTween : v.arrow with
      | none => cases v.style.shadow <;> simp only [Option.bind_none, hShadow, hBody]
      | some a =>
        have hTip := hArrow a hTween
        cases v.style.shadow <;> cases v.direction <;>
          simp only [Option.map_some, Option.map_none, Option.bind_some, hShadow, hBody, hTip]

end Bubble.View

end GuidedTour
