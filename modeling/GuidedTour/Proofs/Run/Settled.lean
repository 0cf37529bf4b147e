import GuidedTour.Proofs.Bubble.Rest
import GuidedTour.Proofs.Run.Scene

/-!
# The settled picture

Bubble, arrow and hole remember where they were, and a run remembers more: old constraints, a flip of the arrow that is
due, a hole that was closed somewhere. None of it is left in the picture once everything has come to rest: the bubble
and its arrow are where the step alone puts them, the veil is faded in, and a closed hole leaves out nothing wherever
it is.

Main results:

* `Resting.draw_eq` - two veils at rest that are to leave out the same darken the same cells.
* `settled_alike` - two sessions that come to rest at the same step over the same frame show the same picture.
-/

namespace GuidedTour

open Layout Motion Screen Overlay

/-- How far a veil has faded in. -/
def Overlay.Veil.fade (v : Veil) (now : Nanos) : Float32 :=
  let fade := seconds (now - v.attached) / seconds fadeIn
  if fade < 1 then fade else 1

theorem Overlay.Veil.opacity_eq (v : Veil) (now : Nanos) : v.opacity now = v.alpha * v.fade now := rfl

namespace Run

/-! ## Veils at rest -/

/-- A veil that has faded in, with the look that the settings ask for, whose hole has arrived. -/
structure Resting (settings : Settings) (kind : StepKind) (ctx : Context) (veil : Veil) (now : Nanos) : Prop where
  tint      : some veil.tint =
    settings.presentationMode.dimming.map fun (color, alpha) => (Veil.attach color alpha 0).tint
  spotlight : Spotlight settings kind ctx veil
  arrived   : ∀ course ∈ veil.hole, course.progress now = 1
  faded     : veil.fade now = 1
  centred   : ∀ hole ∈ veil.targetHole, hole.CentredOnScreen

theorem Resting.draw_eq {settings : Settings} {kind : StepKind} {ctx : Context} {veil veil' : Veil} {now now' : Nanos}
    (h : Resting settings kind ctx veil now) (h' : Resting settings kind ctx veil' now') (b : Buffer) :
    (veil.draw ctx.container b now).2 = (veil'.draw ctx.container b now').2 := by
  obtain ⟨hColor, hAlpha⟩ := Prod.ext_iff.mp (Option.some.inj (h.tint.trans h'.tint.symm))
  dsimp only [Veil.tint] at hColor hAlpha
  have hOpacity : veil.opacity now = veil'.opacity now' := by
    rw [Veil.opacity_eq, Veil.opacity_eq, h.faded, h'.faded, hAlpha]
  by_cases hSpot : ∃ bounds, Spotlit settings kind ctx bounds
  · -- both holes are the one around the area
    obtain ⟨bounds, hSpot⟩ := hSpot
    have hTarget := h.spotlight.around bounds hSpot
    have hTarget' := h'.spotlight.around bounds hSpot
    have hDrawn := draw_of_rest hTarget h.arrived (h.centred _ hTarget) ctx.container b
    refine hDrawn.unique ((draw_of_rest hTarget' h'.arrived (h'.centred _ hTarget') ctx.container b).congr ?_)
    intro x y i _ c
    unfold Veil.shade
    rw [hColor, hOpacity]
  · -- both holes leave out nothing, wherever they are
    obtain ⟨hole, hTarget, hFlat⟩ := h.spotlight.closed hSpot
    obtain ⟨hole', hTarget', hFlat'⟩ := h'.spotlight.closed hSpot
    have hDrawn := draw_of_rest hTarget h.arrived (h.centred _ hTarget) ctx.container b
    refine hDrawn.unique ((draw_of_rest hTarget' h'.arrived (h'.centred _ hTarget') ctx.container b).congr ?_)
    intro x y i _ c
    have hNothing : ¬ hole.bounds.Covers x y := not_covers_of_flat hFlat x y
    have hNothing' : ¬ hole'.bounds.Covers x y := not_covers_of_flat hFlat' x y
    unfold Veil.shade
    simp only [hNothing, hNothing', not_false_eq_true, and_true, hColor, hOpacity]

/-! ## Frames at rest -/

/-- Everything that these views own has come to rest. -/
structure AtRest (v : RunViews) (now : Nanos) : Prop where
  bubble : v.bubble.AtRest now
  hole   : ∀ veil ∈ v.veil, ∀ course ∈ veil.hole, course.progress now = 1
  fade   : ∀ veil ∈ v.veil, veil.fade now = 1

/-- The views after a frame of a step in which everything has come to rest, and the picture that they show. -/
structure Still (settings : Settings) (style : BubbleStyle) (step : Step) (ctx : Context) (b : Buffer) (now : Nanos)
    (views : RunViews) (picture : Buffer) : Prop where
  sight   : Sight settings style step.kind views
  rest    : views.bubble.AtRest now
  placed  : ∃ placed, views.bubble.destination step ctx = .ok placed ∧ views.bubble.SentTo placed
  veil    : ∀ veil ∈ views.veil, Resting settings step.kind ctx veil now
  picture : picture = (views.bubble.draw step.content ctx.container (under views ctx.container b now) now).2

section Still

variable {settings : Settings} {style : BubbleStyle} {step : Step} {ctx : Context} {b : Buffer} {now now' : Nanos}
  {views views' : RunViews} {picture picture' : Buffer}

theorem Still.under_eq (h : Still settings style step ctx b now views picture)
    (h' : Still settings style step ctx b now' views' picture') :
    under views ctx.container b now = under views' ctx.container b now' := by
  have hTint := h.sight.tint.trans h'.sight.tint.symm
  unfold under
  cases hVeil : views.veil with
  | none =>
    rw [hVeil, Option.map_none] at hTint
    rw [Option.map_eq_none_iff.mp hTint.symm]
  | some veil =>
    rw [hVeil, Option.map_some] at hTint
    obtain ⟨veil', hVeil', -⟩ := Option.map_eq_some_iff.mp hTint.symm
    rw [hVeil']
    exact (h.veil veil hVeil).draw_eq (h'.veil veil' hVeil') b

/-- What rests at a step shows the step, and nothing of what came before. -/
theorem Still.alike (h : Still settings style step ctx b now views picture)
    (h' : Still settings style step ctx b now' views' picture') :
    picture = picture' ∧ views.bubble.frame.map (·.target) = views'.bubble.frame.map (·.target) ∧
      views.bubble.arrow.map (·.target) = views'.bubble.arrow.map (·.target) ∧
      views.bubble.direction = views'.bubble.direction := by
  obtain ⟨placed, hDestination, hSent⟩ := h.placed
  obtain ⟨placed', hDestination', hSent'⟩ := h'.placed
  have hOutfit : views.bubble.outfit = views'.bubble.outfit := h.sight.outfit.trans h'.sight.outfit.symm
  have hStyle : views.bubble.style = views'.bubble.style := (Bubble.View.outfit_inj hOutfit).1
  -- both bubbles were sent to the place that the step alone determines
  obtain rfl : placed = placed' := by
    rw [Bubble.View.destination_congr hOutfit rfl rfl, hDestination'] at hDestination
    exact (Except.ok.inj hDestination).symm
  refine ⟨?_, hSent.frame.trans hSent'.frame.symm, hSent.arrow.trans hSent'.arrow.symm,
    hSent.direction.trans hSent'.direction.symm⟩
  rw [h.picture, h'.picture, h.under_eq h']
  exact Bubble.View.draw_of_rest hStyle hSent h.rest hSent' h'.rest ..

end Still

/-- In a frame in which the bubble was placed and everything has come to rest, a run is still. -/
theorem Scene.still {steps : List Step} {settings : Settings} {style : BubbleStyle} {ops : List Op} {r : Run}
    (h : Scene steps settings style ops r) {i : Nat} (hState : r.state = .running i)
    (hText : ∀ step ∈ steps, step.content.isCustom = false) (hSteady : ∀ step ∈ steps, step.kind.Steady)
    {area : Rect} {b : Buffer} {anchors : Anchors} {now : Nanos}
    (hOnScreen : ∀ op ∈ ops ++ [.draw area b anchors], op.OnScreen steps) {views : RunViews}
    (hViews : (r.draw area b anchors now).1.views = some views) (hPlaced : views.lastError = none)
    (hRest : AtRest views now) : ∃ own, steps[i]? = some own ∧
      Still settings style own (.of area anchors) b now views (r.draw area b anchors now).2.1 := by
  obtain ⟨own, shown, before, after, hOwn, hLook, -, hSight, hAfter, hFramed⟩ := h.frame hState area b anchors now
  obtain rfl : after = views := Option.some.inj (hAfter.symm.trans hViews)
  have hMember := List.mem_of_getElem? hOwn
  have hKind : shown.kind = own.kind := congrArg Prod.fst hLook
  have hContent : shown.content = own.content := Step.content_of_look hLook (hText own hMember)
  have hSightAfter := hSight.framed hFramed
  -- the answer of the frame is the place that the step asks for
  obtain ⟨placed, hAnswer⟩ := hFramed.placed hPlaced
  have hDestination : after.bubble.destination own (.of area anchors) = .ok placed := by
    have hOutfit : after.bubble.outfit = before.bubble.outfit := hSightAfter.outfit.trans hSight.outfit.symm
    rw [Bubble.View.destination_congr hOutfit hKind.symm hContent.symm, ← hAnswer]
    exact (Bubble.View.layout_answer hSight.shows (by rw [hKind]; exact hSteady own hMember) _ now).symm
  have hSent : after.bubble.SentTo placed := by
    obtain ⟨b', hBubble⟩ := hFramed.bubble
    rw [hBubble]
    exact (Bubble.View.layout_sent hAnswer).draw ..
  refine ⟨own, hOwn, ?_, hRest.bubble, ⟨placed, hDestination, hSent⟩, fun veil hVeil => ?_, ?_⟩
  · rw [← hKind]
    exact hSightAfter
  · refine ⟨?_, ?_, hRest.hole veil hVeil, hRest.fade veil hVeil, ?_⟩
    · rw [← hSightAfter.tint, hVeil, Option.map_some]
    · rw [← hKind]
      exact hFramed.spotlight veil hVeil
    · exact (h.draw area b anchors now).centred hOnScreen after hAfter veil hVeil
  · rw [← hContent]
    exact hFramed.picture

end Run

namespace Session

open Run (Op)

/--
**The settled picture does not depend on the past.** Take two sessions of runs with the same steps, settings and style,
whatever each went through, where the contents are texts and no placement looks at its frame. Let both draw the same
step over the same area, the same anchors and the same buffer, and place the bubble there, with all areas and anchors on
the screen so far. Once everything has come to rest, both show the same picture, cell by cell, and their bubbles and
arrows have the same destination.
-/
theorem settled_alike {steps : List Step} {settings : Settings} {style : BubbleStyle}
    (hText : ∀ step ∈ steps, step.content.isCustom = false) (hSteady : ∀ step ∈ steps, step.kind.Steady)
    {ops ops' : List Op} {s s' : Session} (hReached : Reached steps settings style ops s)
    (hReached' : Reached steps settings style ops' s') {i : Nat} (hState : s.run.state = .running i)
    (hState' : s'.run.state = .running i) {area : Rect} {b : Buffer} {anchors : Anchors}
    (hOnScreen : ∀ op ∈ ops ++ [.draw area b anchors], op.OnScreen steps)
    (hOnScreen' : ∀ op ∈ ops' ++ [.draw area b anchors], op.OnScreen steps) {views views' : RunViews}
    (hViews : (s.step (.draw area b anchors)).run.views = some views)
    (hViews' : (s'.step (.draw area b anchors)).run.views = some views')
    (hPlaced : views.lastError = none) (hPlaced' : views'.lastError = none)
    (hRest : Run.AtRest views s.now) (hRest' : Run.AtRest views' s'.now) :
    (s.run.draw area b anchors s.now).2.1 = (s'.run.draw area b anchors s'.now).2.1 ∧
      views.bubble.frame.map (·.target) = views'.bubble.frame.map (·.target) ∧
      views.bubble.arrow.map (·.target) = views'.bubble.arrow.map (·.target) ∧
      views.bubble.direction = views'.bubble.direction := by
  obtain ⟨own, hOwn, hStill⟩ :=
    hReached.scene.still hState hText hSteady hOnScreen hViews hPlaced hRest
  obtain ⟨own', hOwn', hStill'⟩ :=
    hReached'.scene.still hState' hText hSteady hOnScreen' hViews' hPlaced' hRest'
  obtain rfl : own = own' := Option.some.inj (hOwn.symm.trans hOwn')
  exact hStill.alike hStill'

/-- One session goes straight to the second step, the other draws both on the way, the first one over a wider area. -/
theorem settled_alike_detour :
    let steps : List Step := [.centered (.rich []) .zero, .below (.rect ⟨10, 1, 4, 2⟩) (.rich [])]
    let area : Rect := ⟨0, 0, 20, 8⟩
    let wide : Rect := ⟨0, 0, 30, 12⟩
    let b := Buffer.blank area
    let s := (opening steps {} {} none none 0).after [.start, .step, .pass (millis 600)]
    let s' := (opening steps {} {} none none 7).after
      [.start, .draw wide (.blank wide) .empty, .pass (millis 100), .step, .draw area b .empty, .pass (millis 600)]
    s.run.state = .running 1 ∧ s'.run.state = .running 1 ∧
      (s.run.draw area b .empty s.now).2.1 = (s'.run.draw area b .empty s'.now).2.1 := by
  intro steps area wide b s s'
  have hText : ∀ step ∈ steps, step.content.isCustom = false := by decide
  have hSteady : ∀ step ∈ steps, step.kind.Steady := by
    intro step hStep
    simp only [steps, List.mem_cons, List.not_mem_nil, or_false] at hStep
    rcases hStep with rfl | rfl <;> exact trivial
  have hState : s.run.state = .running 1 := by decide +kernel
  have hState' : s'.run.state = .running 1 := by decide +kernel
  have hFrame : ∀ (area : Rect) (b : Buffer), area.OnScreen → area.x = 0 → area.y = 0 →
      Op.OnScreen steps (.draw area b .empty) := by
    intro area b hArea hX hY
    refine ⟨hArea, fun step hStep anchor location bounds hKind hAnchor => ?_⟩
    simp only [steps, List.mem_cons, List.not_mem_nil, or_false] at hStep
    rcases hStep with rfl | rfl
    · cases hKind
    · cases hKind
      cases hAnchor
      dsimp only [Context.of]
      rw [hX, hY]
      decide
  have hArea : Op.OnScreen steps (.draw area b .empty) := hFrame area b (by decide) rfl rfl
  have hWide : Op.OnScreen steps (.draw wide (.blank wide) .empty) := hFrame wide _ (by decide) rfl rfl
  have hOnScreen : ∀ op ∈ [.start, .step, .pass (millis 600)] ++ [.draw area b .empty], Op.OnScreen steps op := by
    simp only [List.cons_append, List.nil_append, List.forall_mem_cons]
    exact ⟨trivial, trivial, trivial, hArea, fun _ h => absurd h List.not_mem_nil⟩
  have hOnScreen' : ∀ op ∈ [.start, .draw wide (.blank wide) .empty, .pass (millis 100), .step, .draw area b .empty,
      .pass (millis 600)] ++ [.draw area b .empty], Op.OnScreen steps op := by
    simp only [List.cons_append, List.nil_append, List.forall_mem_cons]
    exact ⟨trivial, hWide, trivial, trivial, hArea, trivial, hArea, fun _ h => absurd h List.not_mem_nil⟩
  -- what each session owns after its last frame, by running it
  have hRuns : ∀ t ∈ [s, s'], ∃ views, (t.step (.draw area b .empty)).run.views = some views ∧
      views.lastError = none ∧ Run.AtRest views t.now := by
    have hOwned : ∀ t ∈ [s, s'], (t.step (.draw area b .empty)).run.views.isSome = true := by decide +kernel
    have hRest : ∀ t ∈ [s, s'], ∀ views ∈ (t.step (.draw area b .empty)).run.views, views.lastError = none ∧
        ((∀ tween ∈ views.bubble.frame, tween.progress t.now = 1) ∧
          (∀ tween ∈ views.bubble.arrow, tween.progress t.now = 1) ∧ ∀ flip ∈ views.bubble.flip, flip.when ≤ t.now) ∧
        (∀ veil ∈ views.veil, ∀ course ∈ veil.hole, course.progress t.now = 1) ∧
        ∀ veil ∈ views.veil, veil.fade t.now = 1 := by decide +kernel
    intro t ht
    obtain ⟨views, hViews⟩ := Option.isSome_iff_exists.mp (hOwned t ht)
    obtain ⟨hPlaced, ⟨hFrame, hArrow, hFlip⟩, hHole, hFade⟩ := hRest t ht views hViews
    exact ⟨views, hViews, hPlaced, ⟨hFrame, hArrow, hFlip⟩, hHole, hFade⟩
  obtain ⟨views, hViews, hPlaced, hRest⟩ := hRuns s (by simp)
  obtain ⟨views', hViews', hPlaced', hRest'⟩ := hRuns s' (by simp)
  have hReached : Reached steps {} {} [.start, .step, .pass (millis 600)] s := ⟨none, none, 0, rfl⟩
  have hReached' : Reached steps {} {} [.start, .draw wide (.blank wide) .empty, .pass (millis 100), .step,
      .draw area b .empty, .pass (millis 600)] s' := ⟨none, none, 7, rfl⟩
  obtain ⟨hPicture, -⟩ := settled_alike hText hSteady hReached hReached' hState hState' hOnScreen hOnScreen' hViews
    hViews' hPlaced hPlaced' hRest hRest'
  exact ⟨hState, hState', hPicture⟩

end Session

end GuidedTour
