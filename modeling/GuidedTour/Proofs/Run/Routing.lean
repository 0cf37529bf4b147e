import GuidedTour.Proofs.Run.Reply
import GuidedTour.Proofs.Run.Rest

/-!
# Where mouse events go

Over the bubble the mouse belongs to the content of the step that is shown. But where the bubble and its content are is
what the last frame has left, and a run moves on to another step without a frame. So there is a time, from the moment
when a step is shown up to its first frame, in which its content is asked about clicks on the content of the step
before: it is told the place of that one, although it has no place of its own yet. From the first frame on it is told
the place where it was drawn last itself.

Main results:

* `demand_of_unasked`, `demand_of_answer` - a mouse event depends on the content through one answer at most.
* `leaves_of_held` - only that answer leaves a step that needs an interaction.
* `after_owned` - when a content has a place of its own.
* `mouse_routing` - which content is asked, and what it is told, in any session.
* `click_before_frame` - a step that needs an interaction is left before it was drawn.
-/

namespace GuidedTour

open LastFrame

namespace Run

/-! ## The one question that a content is asked -/

/-- What the content of the step is told about a mouse event, if the event is offered to it. -/
def offer (r : Run) (e : MouseEvent) : Option ContentPlace :=
  r.views.bind fun v => if v.bubble.contains e.position then contentPlace v e.position else none

section Question

variable {r : Run} {i : Nat} {views : RunViews} {step : Step} {e : MouseEvent}

theorem offer_of_over (hViews : r.views = some views) (hOver : views.bubble.contains e.position = true) :
    r.offer e = contentPlace views e.position := by
  rw [offer, hViews, Option.bind_some, if_pos hOver]

theorem step?_revise (hState : r.state = .running i) (view : CustomContent) : (r.revise i view).step? =
    r.step?.map fun s => if s.content.isCustom then { s with content := .custom view } else s := by
  have hRevised : (r.revise i view).state = .running i := hState
  rw [step?_of_running hState, step?_of_running hRevised]
  simp [revise]

/-- A mouse event depends on the content only over the bubble, and there on its answer. -/
theorem mouseDemand_congr {r' : Run} (hAction : views.bubble.contains e.position = true →
    r'.mouseAction views e = r.mouseAction views e) : r'.mouseDemand views e = r.mouseDemand views e := by
  unfold mouseDemand
  by_cases hOver : views.bubble.contains e.position = true
  · rw [if_pos hOver, if_pos hOver, hAction hOver]
  · rw [if_neg hOver, if_neg hOver]

theorem demand_revise (view : CustomContent)
    (hAction : ∀ views, r.views = some views → views.bubble.contains e.position = true →
      (r.revise i view).mouseAction views e = r.mouseAction views e) :
    (r.revise i view).demand (.mouse e) = r.demand (.mouse e) := by
  have hActive : (r.revise i view).isActive = r.isActive := rfl
  have hViews : (r.revise i view).views = r.views := rfl
  unfold demand
  rw [hActive, hViews]
  split
  · rfl
  · -- the views are the same, so only the answer could differ
    show (r.views.bind fun views => (r.revise i view).mouseDemand views e) = r.views.bind fun v => r.mouseDemand v e
    cases hOwn : r.views with
    | none => rfl
    | some views => exact mouseDemand_congr (hAction views hOwn)

/-- A content that is not asked could be any other. -/
theorem demand_of_unasked (hOffer : r.offer e = none) (view : CustomContent) :
    (r.revise i view).demand (.mouse e) = r.demand (.mouse e) := by
  refine demand_revise view fun views hViews hOver => ?_
  rw [offer_of_over hViews hOver] at hOffer
  unfold mouseAction
  rw [hOffer]

/-- A content that is asked could be any other that gives the same answer. -/
theorem demand_of_answer (hState : r.state = .running i) (hStep : r.step? = some step) {place : ContentPlace}
    (hOffer : r.offer e = some place) (view : CustomContent)
    (hAnswer : view.onMouse e place = step.content.onMouse e place) :
    (r.revise i view).demand (.mouse e) = r.demand (.mouse e) := by
  refine demand_revise view fun views hViews hOver => ?_
  rw [offer_of_over hViews hOver] at hOffer
  unfold mouseAction
  rw [hOffer, step?_revise hState, hStep, Option.map_some]
  by_cases hCustom : step.content.isCustom = true
  · rw [if_pos hCustom]
    exact hAnswer
  · rw [if_neg hCustom]

/-- The mouse leaves a step that needs an interaction only if the content of the step asks for the next one. -/
theorem leaves_of_held (hState : r.state = .running i) (hStep : r.step? = some step)
    (hHeld : step.needsInteraction = true) {now : Nanos} (hLeft : (r.handle (.mouse e) now).1.state ≠ .running i) :
    ∃ place, r.offer e = some place ∧ step.content.onMouse e place = .stepWalkthrough := by
  have hRefused : r.advance .tap now = (r, .ignored, []) := by
    refine advance_refused fun j hRunning => ⟨by decide, ?_⟩
    rw [step?_of_running hRunning] at hStep
    rw [isHeld, hStep]
    exact hHeld
  rw [(handle_eq_meet r (.mouse e) now).1] at hLeft
  cases hDemand : r.demand (.mouse e) with
  | none =>
    rw [hDemand] at hLeft
    exact absurd hState hLeft
  | some d =>
    rw [hDemand] at hLeft
    obtain ⟨views, hViews, hCause⟩ := demand_mouse hDemand
    -- a tap is refused, so it was the content
    have hTap : d ≠ .advance .tap := by
      rintro rfl
      refine hLeft ?_
      show (r.advance .tap now).1.state = .running i
      rw [hRefused]
      exact hState
    cases hCause with
    | content hOver hAction =>
      obtain ⟨place, own, hPlace, hOwn, hAnswer⟩ := mouseAction_step hAction
      obtain rfl : step = own := Option.some.inj (hStep.symm.trans hOwn)
      exact ⟨place, (offer_of_over hViews hOver).trans hPlace, hAnswer⟩
    | bubble => exact absurd rfl hTap
    | background => exact absurd rfl hTap

end Question

/-! ## A place of its own -/

/-- The content of the step remembers its own place just if it was drawn since the step was shown, and this is the place
of the content that the bubble has drawn last. -/
def Owned (drawn : Bool) (r : Run) : Prop :=
  ∀ views ∈ r.views, ∀ area ∈ views.bubble.contentArea, views.contentArea = if drawn then some area else none

theorem Owned.gone {drawn : Bool} {r : Run} (hViews : r.views = none) : Owned drawn r := by
  intro views h
  rw [hViews] at h
  cases h

end Run

theorem RunState.appearing_self (s : RunState) : s.appearing s = none := by
  cases s with
  | running i => exact if_pos rfl
  | _ => rfl

namespace Run

theorem Owned.shift {drawn : Bool} {now : Nanos} {r r' : Run} (h : Owned drawn r) (hShift : Shift now r r') :
    Owned (drawn && (r.state.appearing r'.state).isNone) r' := by
  cases hShift with
  | stay hSame =>
    rw [hSame.state, RunState.appearing_self, Option.isNone_none, Bool.and_true]
    intro views hViews
    exact h views (hSame.views.symm.trans hViews)
  | start hState =>
    -- the new bubble has drawn nothing
    intro views hViews area hArea
    cases hViews
    cases hArea
  | @next i hState =>
    -- another step comes on the screen, and its content has no place yet
    have hAppears : r.state.appearing (.running (i + 1)) = some (i + 1) := by
      rw [hState]
      exact if_neg (by rw [RunState.running.injEq]; omega)
    intro views hViews area hArea
    obtain ⟨old, hOld, rfl⟩ := Option.map_eq_some_iff.mp hViews
    show none = _
    rw [showStep, hAppears]
    simp
  | finish => exact .gone rfl
  | drop => exact .gone rfl

/-- In a frame of the step its content is drawn where the bubble draws its content. -/
theorem Owned.draw {r : Run} {step : Step} (hStep : r.step? = some step) (area : Rect) (b : Screen.Buffer)
    (anchors : Layout.Anchors) (now : Nanos) : Owned true (r.draw area b anchors now).1 := by
  cases hViews : r.views with
  | none =>
    rw [draw_of_idle (.inl hViews)]
    exact .gone hViews
  | some before =>
    rw [draw_of_step hViews hStep]
    have hKept := (drawStep_shown before r.settings step (.of area anchors) b now).content
    intro views hAfter content hContent
    cases hAfter
    rw [hContent] at hKept
    exact hKept.symm

end Run

namespace Session

open Run (Op)

/-! ## Any operations -/

/-- Whether a frame was drawn since the step on the screen has come there, by what was known before an operation. -/
def note (s : Session) (drawn : Bool) (op : Op) : Bool :=
  (s.framed op).isSome || drawn && (s.run.state.appearing (s.step op).run.state).isNone

/-- A session and the note that an onlooker keeps beside it, after one more operation. -/
def watch (t : Session × Bool) (op : Op) : Session × Bool := (t.1.step op, t.1.note t.2 op)

/-- Whether a frame was drawn since the step on the screen has come there. -/
def drawnSince (s : Session) (ops : List Op) : Bool := (ops.foldl watch (s, false)).2

/-- An operation that leaves the step on the screen, and is no frame of it. -/
theorem note_quiet {s : Session} {op : Op} (hFrame : s.framed op = none)
    (hState : (s.step op).run.state = s.run.state) (drawn : Bool) : s.note drawn op = drawn := by
  rw [note, hFrame, hState, RunState.appearing_self, Option.isSome_none, Option.isNone_none, Bool.false_or,
    Bool.and_true]

theorem step_owned {drawn : Bool} {s : Session} (op : Op) (h : Run.Owned drawn s.run) :
    Run.Owned (s.note drawn op) (s.step op).run := by
  cases op with
  | draw area b anchors =>
    cases hStep : s.run.step? with
    | none =>
      -- there is no step, and nothing is drawn
      obtain ⟨hRun, hFrame⟩ := step_idle hStep area b anchors
      rw [note_quiet hFrame (congrArg Run.state hRun), hRun]
      exact h
    | some step =>
      have hNote : s.note drawn (.draw area b anchors) = true := by
        rw [note, framed, hStep]
        rfl
      rw [hNote]
      exact .draw hStep area b anchors s.now
  | revise index view =>
    rw [note_quiet rfl rfl]
    exact h
  | _ => exact h.shift (Run.perform_shift s.now (by simp) (by simp))

theorem foldl_owned {t : Session × Bool} (h : Run.Owned t.2 t.1.run) (ops : List Op) :
    Run.Owned (ops.foldl watch t).2 (t.1.after ops).run := by
  -- the onlooker's note goes along with the session
  induction ops generalizing t with
  | nil => exact h
  | cons op rest ih => exact ih (step_owned op h)

/-- Whatever the operations were, the content of a step has a place of its own just from its first frame on. -/
theorem after_owned {s : Session} (h : Run.Owned false s.run) (ops : List Op) :
    Run.Owned (s.drawnSince ops) (s.after ops).run := foldl_owned (t := (s, false)) h ops

/-- What a mouse event means to the content of the step that a session shows, if the last frame has left `seen`, and
`drawn` says whether a frame was drawn since the step was shown. -/
structure Routing (seen : Option LastFrame) (drawn : Bool) (s : Session) (i : Nat) (step : Step) (e : MouseEvent) :
    Prop where
  /-- The content is asked just where the last frame has drawn a content in a bubble, and told that place. It has a
  place of its own, which is the same, just if a frame was drawn since its step was shown. -/
  offered : s.run.offer e = if onBubble seen e.position = true then
    (contentAt seen e.position).map fun area => ⟨area, if drawn = true then some area else none⟩ else none
  /-- Its answer to that question is all that the event depends on. -/
  unasked : s.run.offer e = none → ∀ view, (s.run.revise i view).demand (.mouse e) = s.run.demand (.mouse e)
  asked : ∀ place, s.run.offer e = some place → ∀ view : CustomContent,
    view.onMouse e place = step.content.onMouse e place →
      (s.run.revise i view).demand (.mouse e) = s.run.demand (.mouse e)
  /-- It alone makes the mouse leave a step that needs an interaction. -/
  left : step.needsInteraction = true → (s.step (.handle (.mouse e))).run.state ≠ .running i →
    ∃ place, s.run.offer e = some place ∧ step.content.onMouse e place = .stepWalkthrough

/--
**Where mouse events go.** Whatever operations came before, the content of the step that is shown is asked about a mouse
event just where the last frame has drawn a bubble and a content in it, and it is told the place of that content. If a
frame was drawn since the step was shown, it is the content's own place; otherwise the content was not drawn yet, and
the place is that of an earlier one. Nothing that happens depends on what the content would have answered elsewhere, and
the mouse leaves a step that needs an interaction for no other reason than that answer.
-/
theorem mouse_routing (steps : List Step) (settings : Settings) (style : BubbleStyle) (identity : Option String)
    (delegate : Option Delegate) (now : Nanos) (ops : List Op) {i : Nat}
    (hState : ((opening steps settings style identity delegate now).after ops).run.state = .running i)
    (e : MouseEvent) : ∃ step,
      ((opening steps settings style identity delegate now).after ops).run.steps[i]? = some step ∧
      Routing ((opening steps settings style identity delegate now).lastFrame ops)
        ((opening steps settings style identity delegate now).drawnSince ops)
        ((opening steps settings style identity delegate now).after ops) i step e := by
  have hReached : Reached steps settings style ops ((opening steps settings style identity delegate now).after ops) :=
    ⟨identity, delegate, now, rfl⟩
  have hTraced : Run.Traced ((opening steps settings style identity delegate now).lastFrame ops) _ :=
    after_traced ⟨fun _ => rfl, fun views h => by cases h⟩ ops
  have hOwned : Run.Owned ((opening steps settings style identity delegate now).drawnSince ops) _ :=
    after_owned (.gone rfl) ops
  set s := (opening steps settings style identity delegate now).after ops
  generalize (opening steps settings style identity delegate now).lastFrame ops = seen at hTraced ⊢
  generalize (opening steps settings style identity delegate now).drawnSince ops = drawn at hOwned ⊢
  obtain ⟨step, views, hStep, hViews, -⟩ := hReached.scene.sight i hState
  have hShown : s.run.step? = some step := (Run.step?_of_running hState).trans hStep
  refine ⟨step, hStep, ?_, fun hOffer view => Run.demand_of_unasked hOffer view,
    fun place hOffer view => Run.demand_of_answer hState hShown hOffer view,
    fun hHeld hLeft => Run.leaves_of_held hState hShown hHeld hLeft⟩
  have hDrawn := (hTraced.drawn views hViews).1
  have hOver : views.bubble.contains e.position = onBubble seen e.position := by
    rw [Bubble.View.contains, hDrawn, onBubble]
  have hArea : views.bubble.contentArea = (seen.bind (·.bubble)).bind (·.content) := by
    rw [Bubble.View.contentArea, hDrawn]
  rw [Run.offer, hViews, Option.bind_some, hOver, Run.contentPlace, hArea]
  -- the place of its own is the one that the bubble has drawn, if there is one
  have hOwn : ∀ area ∈ contentAt seen e.position, views.contentArea = if drawn = true then some area else none := by
    intro area hAt
    refine hOwned views hViews area ?_
    rw [hArea]
    exact (Option.filter_eq_some_iff.mp hAt).1
  have hPlace : (contentAt seen e.position).map (fun area => (⟨area, views.contentArea⟩ : ContentPlace)) =
      (contentAt seen e.position).map fun area => ⟨area, if drawn = true then some area else none⟩ :=
    Option.map_congr fun area hAt => by rw [hOwn area hAt]
  rw [← hPlace]
  rfl

/-- A content is asked where it was drawn, once it was drawn. -/
theorem mouse_routing_drawn :
    let view : CustomContent :=
      { preferredSize := fun _ => ⟨6, 1⟩, draw := fun _ _ b => b
        onMouse := fun _ place => if place.own = some place.area then .stepWalkthrough else .consumed }
    let step : Step := { Step.centered (.custom view) .zero with needsInteraction := true }
    let area : Rect := ⟨0, 0, 20, 8⟩
    let ops : List Op := [.start, .pass (millis 300), .draw area (.blank area) .empty]
    let s := (opening [step] {} {} none none 0).after ops
    let e : MouseEvent := { kind := .down .left, position := ⟨10, 4⟩ }
    s.run.state = .running 0 ∧ s.run.offer e = some ⟨⟨7, 4, 6, 1⟩, some ⟨7, 4, 6, 1⟩⟩ ∧
      (s.step (.handle (.mouse e))).run.state = .completed := by
  intro view step area ops s e
  have hState : s.run.state = .running 0 := by decide +kernel
  have hBubble : onBubble ((opening [step] {} {} none none 0).lastFrame ops) ⟨10, 4⟩ = true := by decide +kernel
  have hContent : contentAt ((opening [step] {} {} none none 0).lastFrame ops) ⟨10, 4⟩ = some ⟨7, 4, 6, 1⟩ := by
    decide +kernel
  have hDrawn : (opening [step] {} {} none none 0).drawnSince ops = true := by decide +kernel
  obtain ⟨own, hOwn, hRouting⟩ := mouse_routing [step] {} {} none none 0 ops hState e
  have hOffer := hRouting.offered
  rw [if_pos hBubble, hContent, hDrawn] at hOffer
  refine ⟨hState, hOffer, by decide +kernel⟩

/-- The button of a step that needs an interaction is pressed where the step before had its text. The step was never
drawn, and is over. -/
theorem click_before_frame :
    let view : CustomContent :=
      { preferredSize := fun _ => ⟨6, 1⟩, draw := fun _ _ b => b
        onMouse := fun e _ => if e.kind = .down .left then .stepWalkthrough else .ignored }
    let steps : List Step :=
      [.centered (.plain "Next") .zero, { Step.centered (.custom view) .zero with needsInteraction := true }]
    let area : Rect := ⟨0, 0, 20, 8⟩
    let ops : List Op := [.start, .pass (millis 300), .draw area (.blank area) .empty, .step]
    let s := (opening steps {} {} none none 0).after ops
    let e : MouseEvent := { kind := .down .left, position := ⟨10, 4⟩ }
    s.run.state = .running 1 ∧ (opening steps {} {} none none 0).drawnSince ops = false ∧
      s.run.offer e = some ⟨⟨8, 4, 4, 1⟩, none⟩ ∧ (s.step (.handle (.mouse e))).run.state = .completed := by
  intro view steps area ops s e
  exact ⟨by decide +kernel, by decide +kernel, by decide +kernel, by decide +kernel⟩

end Session

end GuidedTour
