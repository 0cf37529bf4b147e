import GuidedTour.Proofs.Run.Settled

/-!
# Runs that stay

A frame of a run leaves everything ready for the next one: the bubble keeps its constraints and its failure, the move of
the hole was handed over to the veil, and the hole is on its way to where every further frame would send it. Once all of
it is at rest, the next frame over the same screen changes nothing, neither the run nor the picture, and reports
nothing.

Main results:

* `drawStep_shown` - what a frame leaves of the views.
* `Shown.again` - at rest the next frame changes nothing.
* `rest_later` - a run that needs no animation has come to rest for good.
-/

namespace GuidedTour

open Layout Motion Screen Overlay

/-! ## Veils -/

namespace Overlay.Veil

variable {v : Veil} {now later : Nanos}

/-- The course of fading in. -/
def fading (v : Veil) : Course := ⟨v.attached, fadeIn⟩

/-- The courses that a veil and its hole are on. -/
def courses (v : Veil) : List Course := v.fading :: v.hole.toList.map (·.course)

/-- A veil that does not fade any more has faded in. -/
theorem fade_of_faded (hWhole : v.fading.share fadeIn ≤ v.fading.share (v.fading.elapsed now)) : v.fade now = 1 := by
  have hOne : v.fading.share fadeIn = 1 := by
    show seconds fadeIn / seconds fadeIn = 1
    decide +kernel
  rw [hOne] at hWhole
  exact if_neg (float_not_lt_of_le hWhole)

theorem isAnimating_eq_false : v.isAnimating now = false ↔
    fadeIn ≤ v.fading.elapsed now ∧ ∀ t ∈ v.hole, t.isRunning now = false := by
  simp only [isAnimating, isFading, Bool.or_eq_false_iff, decide_eq_false_iff_not, Nat.not_lt, Option.any_eq_false,
    Option.mem_def]
  rfl

/-- A veil that needs no animation has faded in, and its hole has arrived. -/
theorem rest_later (hOrder : ∀ c ∈ v.courses, c.KeepsOrder now later) (hLater : now ≤ later)
    (hStill : v.isAnimating now = false) :
    (v.fade now = 1 ∧ v.fade later = 1) ∧ ∀ t ∈ v.hole, t.progress now = 1 ∧ t.progress later = 1 := by
  obtain ⟨hFaded, hHole⟩ := isAnimating_eq_false.mp hStill
  have hCourse : v.fading.duration ≠ 0 := show fadeIn ≠ 0 by decide
  -- fading takes a fixed time, which is never zero
  have hFading := hOrder v.fading List.mem_cons_self hCourse
  have hGrows : v.fading.elapsed now ≤ v.fading.elapsed later := Nat.sub_le_sub_right hLater _
  refine ⟨⟨fade_of_faded ?_, fade_of_faded ?_⟩, fun t ht => ?_⟩
  · exact hFading _ List.mem_cons_self _ (by simp) hFaded
  · exact hFading _ List.mem_cons_self _ (by simp) (hFaded.trans hGrows)
  · have hTween : t.course ∈ v.courses := by simp [courses, Option.mem_def.mp ht]
    exact Tween.rest_later (hOrder _ hTween) hLater (hHole t ht)

/-- And so it needs none later. -/
theorem still_later (hOrder : ∀ c ∈ v.courses, c.KeepsOrder now later) (hLater : now ≤ later)
    (hStill : v.isAnimating now = false) : v.isAnimating later = false := by
  obtain ⟨hFaded, -⟩ := isAnimating_eq_false.mp hStill
  obtain ⟨-, hHole⟩ := rest_later hOrder hLater hStill
  exact isAnimating_eq_false.mpr ⟨hFaded.trans (Nat.sub_le_sub_right hLater _),
    fun t ht => Tween.isRunning_of_rest (hHole t ht).2⟩

/-- At rest a veil is drawn the same at every reading of the clock. -/
theorem draw_eq_of_rest (hFade : v.fade now = v.fade later) (hHole : ∀ t ∈ v.hole, t.progress now = 1)
    (hHole' : ∀ t ∈ v.hole, t.progress later = 1) (area : Rect) (b : Buffer) :
    v.draw area b later = v.draw area b now := by
  have hOpacity : v.opacity later = v.opacity now := by
    rw [opacity_eq, opacity_eq, hFade]
  have hThere : v.holeAt later = v.holeAt now := by
    refine Option.map_congr fun t ht => ?_
    rw [Tween.valueAt_of_rest (hHole t ht), Tween.valueAt_of_rest (hHole' t ht)]
  unfold draw drawnHole
  rw [hOpacity, hThere]

end Overlay.Veil

namespace Run

/-! ## Frames that change nothing -/

section Frame

variable {settings : Settings} {step : Step} {ctx : Context} {b picture : Buffer} {now later : Nanos} {w : RunViews}

theorem holeTarget_again (settings : Settings) (step : Step) (ctx : Context) (previous : Option Hole) :
    holeTarget settings step ctx (some (holeTarget settings step ctx previous)) =
      holeTarget settings step ctx previous := by
  rcases holeTarget_cases settings step ctx previous with ⟨bounds, hSpot, hTarget⟩ | ⟨hNone, hTarget⟩
  · -- a spot is sought without looking at the hole before
    rcases holeTarget_cases settings step ctx (some (holeTarget settings step ctx previous)) with
      ⟨bounds', hSpot', hTarget'⟩ | ⟨hNone, -⟩
    · rw [hTarget', hTarget, hSpot.unique hSpot']
    · exact absurd ⟨bounds, hSpot⟩ hNone
  · rcases holeTarget_cases settings step ctx (some (holeTarget settings step ctx previous)) with
      ⟨bounds', hSpot', -⟩ | ⟨-, hTarget'⟩
    · exact absurd ⟨bounds', hSpot'⟩ hNone
    · -- a closed hole stays where it is
      rw [hTarget', hTarget]
      rfl

/-- The views after a frame of a step, as the next frame will find them. -/
structure Shown (settings : Settings) (step : Step) (ctx : Context) (b : Buffer) (now : Nanos) (w : RunViews)
    (picture : Buffer) : Prop where
  placed  : ∃ answer, w.bubble.Laid step ctx answer ∧ w.lastError = Bubble.View.failure? answer
  /-- The veil has begun to follow the move of the step, and its hole goes where it would be sent. -/
  veil    : ∀ veil ∈ w.veil, w.holeMove = none ∧ veil.lastArea = some ctx.container ∧
    ∃ hole, veil.targetHole = some hole ∧ holeTarget settings step ctx (some hole) = hole
  drawn   : w.bubble.draw step.content ctx.container (under w ctx.container b now) now = (w.bubble, picture)
  content : (w.bubble.contentArea <|> w.contentArea) = w.contentArea

theorem drawStep_shown (v : RunViews) (settings : Settings) (step : Step) (ctx : Context) (b : Buffer) (now : Nanos) :
    Shown settings step ctx b now (drawStep v settings step ctx b now).1 (drawStep v settings step ctx b now).2.1 := by
  obtain ⟨veil, bubble, holeMove, lastError, contentArea⟩ := v
  have hLaid := bubble.layout_laid step ctx now
  have hContent : ∀ (drawn : Bubble.View) (old : Option Rect),
      (drawn.contentArea <|> (drawn.contentArea <|> old)) = (drawn.contentArea <|> old) := by
    intro drawn old
    cases drawn.contentArea <;> rfl
  -- the buffer that the bubble is drawn into is the one that the next frame will find under it
  unfold drawStep
  dsimp only
  rw [placeBubble_fst]
  cases veil with
  | none =>
    refine ⟨⟨_, hLaid.drawn .., rfl⟩, fun _ hNone => ?_, Bubble.View.draw_drawn .., hContent ..⟩
    cases hNone
  | some veil =>
    obtain ⟨course, hTarget, hDrawn⟩ := drawVeil_eq settings step ctx b now veil holeMove
    dsimp only
    rw [hDrawn]
    refine ⟨⟨_, hLaid.drawn .., rfl⟩, fun veil' hVeil => ?_, Bubble.View.draw_drawn .., hContent ..⟩
    cases hVeil
    refine ⟨rfl, rfl, _, congrArg some hTarget, holeTarget_again ..⟩

theorem placeBubble_again {answer : Except PlacementError Bubble.BubbleLayout} (hLaid : w.bubble.Laid step ctx answer)
    (hError : w.lastError = Bubble.View.failure? answer) (now : Nanos) : placeBubble w step ctx now = (w, []) := by
  unfold placeBubble
  rw [hLaid.layout]
  cases answer with
  | ok placed =>
    obtain ⟨_, _, _, lastError, _⟩ := w
    obtain rfl : lastError = none := hError
    rfl
  | error e =>
    exact if_pos hError

theorem drawVeil_again {veil : Veil} {hole : Hole} (hArea : veil.lastArea = some ctx.container)
    (hTarget : veil.targetHole = some hole) (hSame : holeTarget settings step ctx (some hole) = hole) (now : Nanos) :
    drawVeil veil settings step ctx none b now = (veil, (veil.draw ctx.container b now).2) := by
  obtain ⟨t, hTween, rfl⟩ := Option.map_eq_some_iff.mp hTarget
  -- sent to where it goes, the hole keeps its course
  have hMoved : veil.moveHole t.target now none = veil := by
    rw [Veil.moveHole, hTween]
    show { veil with hole := some t } = veil
    rw [← hTween]
  have hKept : (veil.draw ctx.container b now).1 = veil := by
    show { veil with lastArea := some ctx.container } = veil
    rw [← hArea]
  unfold drawVeil
  rw [hTarget]
  dsimp only
  rw [hTarget, hSame, Option.map_none, hMoved]
  exact Prod.ext hKept rfl

/-- At rest the next frame changes nothing. -/
theorem Shown.again (h : Shown settings step ctx b now w picture) (hRest : AtRest w now) (hRest' : AtRest w later) :
    drawStep w settings step ctx b later = (w, picture, []) := by
  obtain ⟨answer, hLaid, hError⟩ := h.placed
  obtain ⟨veil, bubble, holeMove, lastError, contentArea⟩ := w
  -- the bubble at rest is drawn over the same buffer, so as before
  have hDrawn : ∀ b', b' = under ⟨veil, bubble, holeMove, lastError, contentArea⟩ ctx.container b now →
      bubble.draw step.content ctx.container b' later = (bubble, picture) := by
    rintro b' rfl
    rw [hRest.bubble.draw_eq hRest'.bubble]
    exact h.drawn
  unfold drawStep
  rw [placeBubble_again hLaid hError]
  cases veil with
  | none =>
    dsimp only
    rw [hDrawn b rfl]
    dsimp only
    rw [h.content]
  | some veil =>
    obtain ⟨hMove, hArea, hole, hTarget, hSame⟩ := h.veil veil rfl
    have hStill : veil.draw ctx.container b later = veil.draw ctx.container b now :=
      Veil.draw_eq_of_rest ((hRest.fade veil rfl).trans (hRest'.fade veil rfl).symm) (hRest.hole veil rfl)
        (hRest'.hole veil rfl) ctx.container b
    obtain rfl : holeMove = none := hMove
    dsimp only
    rw [drawVeil_again hArea hTarget hSame, hStill]
    dsimp only
    rw [hDrawn (veil.draw ctx.container b now).2 rfl]
    dsimp only
    rw [h.content]

end Frame

/-! ## Whole runs -/

variable {r : Run} {now later : Nanos}

/-- The courses of everything that a run owns. -/
def courses (r : Run) : List Course :=
  r.views.toList.flatMap fun v => v.bubble.courses ++ v.veil.toList.flatMap (·.courses)

/-- A run that needs no animation has come to rest for good. -/
theorem rest_later (hOrder : ∀ c ∈ r.courses, c.KeepsOrder now later) (hLater : now ≤ later)
    (hStill : r.isAnimating now = false) :
    (∀ v ∈ r.views, AtRest v now ∧ AtRest v later) ∧ r.isAnimating later = false := by
  have hParts : ∀ v ∈ r.views, v.bubble.isAnimating now = false ∧ ∀ veil ∈ v.veil, veil.isAnimating now = false := by
    simpa only [isAnimating, Option.any_eq_false, Bool.or_eq_false_iff, Option.mem_def] using hStill
  have hBubble : ∀ v ∈ r.views, v.bubble.AtRest now ∧ v.bubble.AtRest later := by
    intro v hv
    refine Bubble.View.rest_later (fun c hc => hOrder c ?_) hLater (hParts v hv).1
    exact List.mem_flatMap.mpr ⟨v, Option.mem_toList.mpr hv, List.mem_append_left _ hc⟩
  have hVeil : ∀ v ∈ r.views, ∀ veil ∈ v.veil, ∀ c ∈ veil.courses, c.KeepsOrder now later := by
    intro v hv veil hThis c hc
    refine hOrder c (List.mem_flatMap.mpr ⟨v, Option.mem_toList.mpr hv, List.mem_append_right _ ?_⟩)
    exact List.mem_flatMap.mpr ⟨veil, Option.mem_toList.mpr hThis, hc⟩
  refine ⟨fun v hv => ?_, ?_⟩
  · have hRest := fun veil hThis => Veil.rest_later (hVeil v hv veil hThis) hLater ((hParts v hv).2 veil hThis)
    constructor
    · exact
        { bubble := (hBubble v hv).1
          hole := fun veil hThis t ht => ((hRest veil hThis).2 t ht).1
          fade := fun veil hThis => (hRest veil hThis).1.1 }
    · exact
        { bubble := (hBubble v hv).2
          hole := fun veil hThis t ht => ((hRest veil hThis).2 t ht).2
          fade := fun veil hThis => (hRest veil hThis).1.2 }
  · simp only [isAnimating, Option.any_eq_false, Bool.or_eq_false_iff]
    exact fun v hv => ⟨(hBubble v hv).2.isAnimating,
      fun veil hThis => Veil.still_later (hVeil v hv veil hThis) hLater ((hParts v hv).2 veil hThis)⟩

/-- A run at rest is drawn once more as it was drawn before. -/
theorem draw_again {area : Rect} {b : Buffer} {anchors : Anchors}
    (hRest : ∀ v ∈ (r.draw area b anchors now).1.views, AtRest v now ∧ AtRest v later) :
    (r.draw area b anchors now).1.draw area b anchors later =
      ((r.draw area b anchors now).1, (r.draw area b anchors now).2.1, []) := by
  -- without views, or on no step, there is nothing to be drawn
  by_cases hIdle : r.views = none ∨ r.step? = none
  · rw [draw_of_idle hIdle, draw_of_idle hIdle]
  rw [not_or] at hIdle
  obtain ⟨views, hViews⟩ := Option.ne_none_iff_exists'.mp hIdle.1
  obtain ⟨step, hStep⟩ := Option.ne_none_iff_exists'.mp hIdle.2
  rw [draw_of_step hViews hStep] at hRest ⊢
  obtain ⟨hNow, hThen⟩ := hRest _ rfl
  have hAgain := (drawStep_shown views r.settings step (.of area anchors) b now).again hNow hThen
  refine (draw_of_step (r := { r with views := some _ }) rfl hStep area b anchors later).trans ?_
  rw [hAgain]

end Run

end GuidedTour
