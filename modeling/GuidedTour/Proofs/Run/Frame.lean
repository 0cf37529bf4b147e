import GuidedTour.Proofs.Bubble.Destination
import GuidedTour.Proofs.Overlay.Spotlight
import GuidedTour.Proofs.Run.Turn

/-!
# A frame of a run

In a frame the bubble is placed, the hole of the veil sets out for the step, and both are drawn, the bubble above the
veil. `Framed` says all of it about the views before and after a frame, so that no other proof has to open a frame.

Main results:

* `holeTarget_cases` - the hole is sent around the anchor that the mode highlights, or closed.
* `draw_framed` - what a frame does to the views, and the picture that it draws.
* `Framed.spotlight` - where a frame sends the hole of the veil.
-/

namespace GuidedTour

open Layout Screen Overlay

/-- The color and the strength of a veil. -/
def Overlay.Veil.tint (v : Veil) : Color × Float32 := (v.color, v.alpha)

namespace Run

variable {r : Run}

theorem step?_eq_some {step : Step} (h : r.step? = some step) :
    ∃ i, r.state = .running i ∧ r.steps[i]? = some step := by
  unfold step? at h
  obtain ⟨i, hIndex, hStep⟩ := Option.bind_eq_some_iff.mp h
  exact ⟨i, index?_eq_some_iff.mp hIndex, hStep⟩

theorem step?_of_running {i : Nat} (hState : r.state = .running i) : r.step? = r.steps[i]? := by
  unfold step?
  rw [index?_eq_some_iff.mpr hState]
  rfl

/-! ## The parts of a frame -/

/-- A failure is kept, so that it is reported once. -/
theorem placeBubble_fst (v : RunViews) (step : Step) (ctx : Context) (now : Nanos) : (placeBubble v step ctx now).1 =
    { v with
      bubble := (v.bubble.layout step ctx now).1
      lastError := Bubble.View.failure? (v.bubble.layout step ctx now).2 } := by
  unfold placeBubble
  dsimp only
  cases (v.bubble.layout step ctx now).2 with
  | ok placed => rfl
  | error e =>
    dsimp only
    split
    · next hAgain => rw [Bubble.View.failure?, ← hAgain]
    · rfl

/-! ## The target of the hole -/

section Target

variable (settings : Settings) (step : Step) (ctx : Context)

/-- The area that the veil is to leave out at a step: the bounds of its anchor, if the mode highlights it. -/
def Spotlit (settings : Settings) (kind : StepKind) (ctx : Context) (bounds : Bounds) : Prop :=
  settings.presentationMode.highlights = true ∧ ∃ anchor location, kind = .highlighted anchor location ∧
    (Target.ofAnchor anchor).resolve ctx = .ok bounds

theorem holeTarget_cases (previous : Option Hole) :
    (∃ bounds, Spotlit settings step.kind ctx bounds ∧
      holeTarget settings step ctx previous = .around bounds settings.highlightingOffset) ∨
    (¬ ∃ bounds, Spotlit settings step.kind ctx bounds) ∧
      holeTarget settings step ctx previous = (previous.getD (.covering ctx.container)).closed := by
  unfold holeTarget Spotlit
  cases step.kind with
  | standalone placement =>
    refine .inr ⟨?_, rfl⟩
    rintro ⟨bounds, -, anchor, location, hKind, -⟩
    cases hKind
  | highlighted anchor location =>
    dsimp only
    by_cases hMode : settings.presentationMode.highlights = true
    · rw [if_pos hMode]
      cases hAnchor : (Target.ofAnchor anchor).resolve ctx with
      | ok bounds => exact .inl ⟨bounds, ⟨hMode, anchor, location, rfl, hAnchor⟩, rfl⟩
      | error e =>
        refine .inr ⟨?_, rfl⟩
        rintro ⟨bounds, -, anchor', location', hKind, hAnchor'⟩
        cases hKind
        rw [hAnchor] at hAnchor'
        cases hAnchor'
    · rw [if_neg hMode]
      refine .inr ⟨?_, rfl⟩
      rintro ⟨bounds, hHighlights, -⟩
      exact hMode hHighlights

/-- An anchor has one place in a frame. -/
theorem Spotlit.unique {settings : Settings} {kind : StepKind} {ctx : Context} {bounds bounds' : Bounds}
    (h : Spotlit settings kind ctx bounds) (h' : Spotlit settings kind ctx bounds') : bounds = bounds' := by
  obtain ⟨-, anchor, location, rfl, hAnchor⟩ := h
  obtain ⟨-, anchor', location', hKind, hAnchor'⟩ := h'
  cases hKind
  exact Except.ok.inj (hAnchor.symm.trans hAnchor')

theorem centred_holeTarget {previous : Option Hole} (hArea : ctx.container.OnScreen)
    (hAnchor : ∀ bounds, Spotlit settings step.kind ctx bounds → bounds.OnScreen)
    (hPrevious : ∀ hole ∈ previous, hole.CentredOnScreen) :
    (holeTarget settings step ctx previous).CentredOnScreen := by
  rcases holeTarget_cases settings step ctx previous with ⟨bounds, hSpot, hTarget⟩ | ⟨-, hTarget⟩
  · rw [hTarget]
    exact centred_around (hAnchor bounds hSpot) settings.highlightingOffset
  · rw [hTarget]
    refine centred_closed ?_
    cases previous with
    | none => exact centred_covering hArea
    | some hole => exact hPrevious hole rfl

end Target

/-! ## What a frame does -/

/-- The buffer under the bubble, once the veil of these views has been drawn. -/
def under (v : RunViews) (area : Rect) (b : Buffer) (now : Nanos) : Buffer :=
  match v.veil with
  | none => b
  | some veil => (veil.draw area b now).2

/-- The views before and after a frame of a step, and the picture that it draws. -/
structure Framed (settings : Settings) (step : Step) (ctx : Context) (b : Buffer) (now : Nanos)
    (before after : RunViews) (picture : Buffer) : Prop where
  /-- The bubble is placed, and then drawn. -/
  bubble  : ∃ b', after.bubble =
    ((before.bubble.layout step ctx now).1.draw step.content ctx.container b' now).1
  placed  : after.lastError = none → ∃ placed, (before.bubble.layout step ctx now).2 = .ok placed
  tint    : after.veil.map Veil.tint = before.veil.map Veil.tint
  /-- The hole is on its way to where the step wants it. -/
  hole    : ∀ veil ∈ after.veil, ∃ old ∈ before.veil,
    veil.targetHole = some (holeTarget settings step ctx old.targetHole)
  /-- The picture is what the views after the frame show. -/
  picture : picture = (after.bubble.draw step.content ctx.container (under after ctx.container b now) now).2

section Frame

variable (v : RunViews) (settings : Settings) (step : Step) (ctx : Context) (b : Buffer) (now : Nanos)

theorem drawVeil_eq (veil : Veil) (move : Option Nanos) : ∃ course : Motion.Tween Hole,
    course.target = holeTarget settings step ctx veil.targetHole ∧
      drawVeil veil settings step ctx move b now = { veil with hole := some course }.draw ctx.container b now := by
  obtain ⟨color, alpha, attached, hole, lastArea⟩ := veil
  cases hole with
  | none =>
    -- a veil without a hole gets the container first, which is also what a missing hole counts as
    exact ⟨Motion.Tween.send (some (.settled (.covering ctx.container) now)) _ now
      (move.map fun started => (started, settings.stepTransition)), Motion.Tween.target_send .., rfl⟩
  | some course =>
    exact ⟨Motion.Tween.send (some course) _ now (move.map fun started => (started, settings.stepTransition)),
      Motion.Tween.target_send .., rfl⟩

theorem drawStep_framed : Framed settings step ctx b now v (drawStep v settings step ctx b now).1
    (drawStep v settings step ctx b now).2.1 := by
  have hOk : (placeBubble v step ctx now).1.lastError = none →
      ∃ placed, (v.bubble.layout step ctx now).2 = .ok placed := by
    rw [placeBubble_fst]
    exact Bubble.View.ok_of_failure?
  unfold drawStep
  dsimp only
  rw [placeBubble_fst] at hOk ⊢
  cases hVeil : v.veil with
  | none =>
    refine ⟨⟨b, rfl⟩, hOk, ?_, fun veil h => ?_, ?_⟩
    · rw [hVeil]
    · cases h
    · exact (Bubble.View.draw_again _ step.content ctx.container b now).symm
  | some veil =>
    obtain ⟨course, hTarget, hDrawn⟩ := drawVeil_eq settings step ctx b now veil v.holeMove
    dsimp only
    rw [hDrawn]
    refine ⟨⟨_, rfl⟩, hOk, ?_, fun veil' h => ?_, ?_⟩
    · rw [hVeil]
      rfl
    · cases h
      exact ⟨veil, hVeil, congrArg some hTarget⟩
    · exact (Bubble.View.draw_again _ step.content ctx.container _ now).symm

end Frame

theorem draw_of_step {before : RunViews} {step : Step} (hViews : r.views = some before) (hStep : r.step? = some step)
    (area : Rect) (b : Buffer) (anchors : Anchors) (now : Nanos) : r.draw area b anchors now =
      ({ r with views := some (drawStep before r.settings step (.of area anchors) b now).1 },
        (drawStep before r.settings step (.of area anchors) b now).2) := by
  unfold draw
  rw [hViews, hStep]

/-- A run that shows no step draws nothing. -/
theorem draw_of_idle (h : r.views = none ∨ r.step? = none) (area : Rect) (b : Buffer) (anchors : Anchors)
    (now : Nanos) : r.draw area b anchors now = (r, b, []) := by
  unfold draw
  cases hViews : r.views with
  | none => rfl
  | some views =>
    have hStep : r.step? = none := h.resolve_left (by rw [hViews]; exact Option.some_ne_none views)
    rw [hStep]

theorem draw_framed {before : RunViews} {step : Step} (hViews : r.views = some before) (hStep : r.step? = some step)
    (area : Rect) (b : Buffer) (anchors : Anchors) (now : Nanos) : ∃ after,
    (r.draw area b anchors now).1 = { r with views := some after } ∧
      Framed r.settings step (.of area anchors) b now before after (r.draw area b anchors now).2.1 := by
  rw [draw_of_step hViews hStep]
  exact ⟨_, rfl, drawStep_framed ..⟩

/-- The hole of a veil is going around the area that is to be left out, or closes. -/
structure Spotlight (settings : Settings) (kind : StepKind) (ctx : Context) (veil : Veil) : Prop where
  around : ∀ bounds, Spotlit settings kind ctx bounds →
    veil.targetHole = some (.around bounds settings.highlightingOffset)
  closed : (¬ ∃ bounds, Spotlit settings kind ctx bounds) → ∃ hole, veil.targetHole = some hole ∧ hole.height = 0

theorem Framed.spotlight {settings : Settings} {step : Step} {ctx : Context} {b : Buffer} {now : Nanos}
    {before after : RunViews} {picture : Buffer} (h : Framed settings step ctx b now before after picture) :
    ∀ veil ∈ after.veil, Spotlight settings step.kind ctx veil := by
  intro veil hVeil
  obtain ⟨old, -, hTarget⟩ := h.hole veil hVeil
  rcases holeTarget_cases settings step ctx old.targetHole with ⟨bounds, hSpot, hAround⟩ | ⟨hNone, hClosed⟩
  · refine ⟨fun bounds' hSpot' => ?_, fun hNone => absurd ⟨bounds, hSpot⟩ hNone⟩
    rw [hTarget, hAround, hSpot.unique hSpot']
  · refine ⟨fun bounds hSpot => absurd ⟨bounds, hSpot⟩ hNone, fun _ => ⟨_, hTarget, ?_⟩⟩
    rw [hClosed]
    rfl

end Run

end GuidedTour
