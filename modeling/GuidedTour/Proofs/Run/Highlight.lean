import GuidedTour.Proofs.Run.Scene

/-!
# The highlighted area

The target of the hole depends on the mode, on the kind of the step and on whether its anchor resolves, and a closed
hole stays where it was. In every frame of every session the hole is sent to the area that is to be left out, or
closed; once it has arrived, the area is left out whole, and without such an area nothing is.

Main results:

* `Spotlight.revealing` - what a veil darkens whose hole has arrived.
* `frame_spotlight` - where the hole is going in every frame of every session, and what follows once it has arrived.
-/

namespace GuidedTour

open Layout Screen Overlay

namespace Run

/-- What a veil makes of a buffer: the area that is to be left out stays as it was, and where there is none the whole
container is darkened. -/
structure Revealing (settings : Settings) (kind : StepKind) (ctx : Context) (veil : Veil) (b : Buffer) (now : Nanos) :
    Prop where
  spared : ∀ bounds, Spotlit settings kind ctx bounds → ∀ x y, bounds.Covers x y →
    (veil.draw ctx.container b now).2.cell? x y = b.cell? x y
  dimmed : (¬ ∃ bounds, Spotlit settings kind ctx bounds) → ∀ x y, ctx.container.Covers x y →
    (veil.draw ctx.container b now).2.cell? x y = (b.cell? x y).map (·.dim veil.color (veil.opacity now))

theorem Spotlight.revealing {settings : Settings} {kind : StepKind} {ctx : Context} {veil : Veil} {now : Nanos}
    (h : Spotlight settings kind ctx veil) (hRest : ∀ course ∈ veil.hole, course.progress now = 1)
    (hCentred : ∀ hole ∈ veil.targetHole, hole.CentredOnScreen)
    (hAnchor : ∀ bounds, Spotlit settings kind ctx bounds → bounds.OnScreen) (b : Buffer) :
    Revealing settings kind ctx veil b now := by
  refine ⟨fun bounds hSpot x y hCovers => ?_, fun hNone x y hCovers => ?_⟩
  · -- the hole contains the area
    have hTarget := h.around bounds hSpot
    have hInside := (around_surrounds (hAnchor bounds hSpot) settings.highlightingOffset).covers x y hCovers
    have hSpared : ∀ c, veil.shade ctx.container (.around bounds settings.highlightingOffset) now x y c = c :=
      fun c => if_neg fun hOutside => hOutside.2 hInside
    rw [(draw_of_rest hTarget hRest (hCentred _ hTarget) ctx.container b).cell?_eq, funext hSpared, Option.map_id']
  · -- the hole contains nothing
    obtain ⟨hole, hTarget, hFlat⟩ := h.closed hNone
    have hDimmed : ∀ c, veil.shade ctx.container hole now x y c = c.dim veil.color (veil.opacity now) :=
      fun c => if_pos ⟨hCovers, not_covers_of_flat hFlat x y⟩
    rw [(draw_of_rest hTarget hRest (hCentred _ hTarget) ctx.container b).cell?_eq, funext hDimmed]

end Run

namespace Session

open Run (Op)

/--
**The highlighted area.** Whatever operations and frames came before: right after a frame at a step, the veil's hole is
going around the current bounds of the step's anchor if the mode highlights it and the anchor resolves, and otherwise to
a hole without height. Once it has arrived, and if all frames were on the screen, no cell of the anchor is darkened, and
where there is nothing to highlight every cell of the container is; the bubble is drawn above that. A hole around bounds
on the screen contains them, is larger by exactly the padding, and shares it evenly between opposite sides.
-/
theorem frame_spotlight {steps : List Step} {settings : Settings} {style : BubbleStyle} {ops : List Op} {s : Session}
    (hReached : Reached steps settings style ops s) (hDimming : settings.presentationMode ≠ .none) {i : Nat}
    (hState : s.run.state = .running i) (area : Rect) (b : Buffer) (anchors : Anchors) :
    (∃ step views veil, steps[i]? = some step ∧ (s.step (.draw area b anchors)).run.views = some views ∧
      views.veil = some veil ∧
      Run.Spotlight settings step.kind (.of area anchors) veil ∧
      ((∀ op ∈ ops ++ [.draw area b anchors], op.OnScreen steps) → (∀ course ∈ veil.hole, course.progress s.now = 1) →
        Run.Revealing settings step.kind (.of area anchors) veil b s.now) ∧
      ∃ shown, s.run.step? = some shown ∧ (s.run.draw area b anchors s.now).2.1 =
        (views.bubble.draw shown.content area (veil.draw area b s.now).2 s.now).2) ∧
    ∀ bounds padding, bounds.OnScreen → Surrounds (Hole.around bounds padding).bounds bounds padding := by
  refine ⟨?_, fun bounds padding hOnScreen => around_surrounds hOnScreen padding⟩
  have hScene := hReached.scene
  obtain ⟨own, shown, before, views, hOwn, hLook, hStep, hSight, hViews, hFramed⟩ :=
    hScene.frame hState area b anchors s.now
  have hKind : shown.kind = own.kind := congrArg Prod.fst hLook
  -- the mode asks for a veil, so there is one
  obtain ⟨veil, hVeil⟩ : ∃ veil, views.veil = some veil := by
    have hTint := congrArg Option.isSome (hSight.framed hFramed).tint
    rw [Option.isSome_map, Option.isSome_map, (dimming_isSome_iff settings.presentationMode).mpr hDimming] at hTint
    exact Option.isSome_iff_exists.mp hTint
  have hSpotlight := hFramed.spotlight veil hVeil
  rw [hKind] at hSpotlight
  refine ⟨own, views, veil, hOwn, hViews, hVeil, hSpotlight, fun hOnScreen hRest => ?_, shown, hStep, ?_⟩
  · -- the hole is centred on the screen after this frame as after all others
    have hCentred := (hScene.draw area b anchors s.now).centred hOnScreen views hViews veil hVeil
    obtain ⟨-, hFrame⟩ := Run.onScreen_concat.mp hOnScreen
    exact hSpotlight.revealing hRest hCentred
      (fun bounds hSpot => Run.onScreen_of_spotlit hFrame (List.mem_of_getElem? hOwn) hSpot) b
  · have hPicture := hFramed.picture
    unfold Run.under at hPicture
    rw [hVeil] at hPicture
    exact hPicture

/-- The first step's hole has arrived: the veil leaves out the area below which the bubble points. -/
theorem spotlight_arrived :
    let step : Step := .below (.rect ⟨10, 1, 4, 2⟩) (.rich [])
    let s := (opening [step] {} {} none none 0).after [.start, .pass (millis 600)]
    let area : Rect := ⟨0, 0, 20, 8⟩
    let b := Buffer.blank area
    s.run.state = .running 0 ∧ ∃ views veil, (s.step (.draw area b .empty)).run.views = some views ∧
      views.veil = some veil ∧ veil.targetHole = some ⟨12, 2, 6, 4⟩ ∧
      (veil.draw area b s.now).2.cell? 11 2 = some {} := by
  intro step s area b
  have hState : s.run.state = .running 0 := by decide +kernel
  obtain ⟨⟨own, views, veil, hOwn, hViews, hVeil, hSpotlight, hRevealing, -⟩, -⟩ :=
    frame_spotlight ⟨none, none, 0, rfl⟩ (by intro h; cases h) hState area b .empty
  have hArrived : ∀ views ∈ (s.step (.draw area b .empty)).run.views, ∀ veil ∈ views.veil, ∀ course ∈ veil.hole,
      course.progress s.now = 1 := by decide +kernel
  have hOnScreen : ∀ op ∈ [.start, .pass (millis 600)] ++ [.draw area b .empty], Op.OnScreen [step] op := by
    intro op hOp
    simp only [List.cons_append, List.nil_append, List.mem_cons, List.not_mem_nil, or_false] at hOp
    rcases hOp with rfl | rfl | rfl
    · exact trivial
    · exact trivial
    · refine ⟨by decide, fun step' hStep anchor location bounds hKind hAnchor => ?_⟩
      cases List.mem_singleton.mp hStep
      cases hKind
      cases hAnchor
      decide
  cases hOwn
  have hSpot : Run.Spotlit {} step.kind (.of area .empty) _ := ⟨rfl, _, _, rfl, rfl⟩
  refine ⟨hState, views, veil, hViews, hVeil, (hSpotlight.around _ hSpot).trans (by decide), ?_⟩
  have hSpared := (hRevealing hOnScreen (hArrived views hViews veil hVeil)).spared _ hSpot 11 2 (by decide)
  exact hSpared.trans (by decide +kernel)

end Session

end GuidedTour
