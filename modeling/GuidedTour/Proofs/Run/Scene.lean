import GuidedTour.Proofs.Bubble.Destination
import GuidedTour.Proofs.Run.Frame
import GuidedTour.Proofs.Run.Session
import Mathlib.Data.List.Induction

/-!
# What is on the screen

Between two frames a run keeps its views, or moves on to a step, or loses them. So whatever the operations were, the
bubble of a run at a step is a bubble that shows a step of this kind, it still has the look that the settings ask for,
and so has the veil. As long as all frames were drawn on the screen, the hole is centred on the screen.

Main results:

* `perform_shift` - what an operation other than a frame does to the views.
* `Scene.shift` / `Scene.draw` - what is on the screen after one more operation.
* `Session.Reached.scene` - what is on the screen after any operations.
-/

namespace GuidedTour

open Layout Screen Overlay

/-- What never changes about the look of a step: its kind, and its content unless that is a view of its own. -/
def Step.look (s : Step) : StepKind × Option Content :=
  (s.kind, if s.content.isCustom then none else some s.content)

theorem Step.content_of_look {s s' : Step} (h : s.look = s'.look) (hText : s'.content.isCustom = false) :
    s.content = s'.content := by
  have hContent := (Prod.ext_iff.mp h).2
  dsimp only [look] at hContent
  rw [hText, if_neg Bool.false_ne_true] at hContent
  split at hContent
  · cases hContent
  · exact Option.some.inj hContent

namespace Run

theorem revise_look (r : Run) (index : Nat) (view : CustomContent) :
    (r.revise index view).steps.map Step.look = r.steps.map Step.look := by
  apply List.ext_getElem?
  intro i
  simp only [revise, List.getElem?_map, List.getElem?_modify]
  cases r.steps[i]? with
  | none => rfl
  | some s =>
    simp only [Option.map_eq_map, Option.map_some, Option.some.injEq]
    by_cases hHere : index = i
    · rw [if_pos hHere]
      by_cases hCustom : s.content.isCustom = true
      · rw [if_pos hCustom]
        unfold Step.look
        rw [if_pos hCustom]
        rfl
      · rw [if_neg hCustom]
    · rw [if_neg hHere]

/-! ## Between two frames -/

/-- Two runs that show the same. -/
structure SameScene (r r' : Run) : Prop where
  state    : r'.state = r.state
  views    : r'.views = r.views
  steps    : r'.steps = r.steps
  settings : r'.settings = r.settings
  style    : r'.style = r.style

/-- What an operation other than a frame makes of a run. -/
inductive Shift (now : Nanos) (r : Run) : Run → Prop
  | stay {r' : Run} (hSame : SameScene r r') : Shift now r r'
  | start (hState : r.state = .notStarted) (hSteps : 0 < r.steps.length) : Shift now r (r.begun now)
  | next {i : Nat} (hState : r.state = .running i) (hMore : i + 1 < r.steps.length) :
      Shift now r (r.showStep (i + 1) now)
  | finish : Shift now r r.finished
  | drop : Shift now r r.dropped

theorem Shift.idle (now : Nanos) (r : Run) : Shift now r r := .stay ⟨rfl, rfl, rfl, rfl, rfl⟩

theorem advance_shift (r : Run) (trigger : Trigger) (now : Nanos) : Shift now r (r.advance trigger now).1 := by
  rcases advance_cases r trigger now with hRefused | ⟨i, hState, hLeave⟩
  · rw [hRefused]
    exact .idle now r
  · rw [advance_accepted hState hLeave]
    by_cases hMore : i + 1 < r.steps.length
    · rw [if_pos hMore]
      exact .next hState hMore
    · rw [if_neg hMore]
      exact .finish

theorem start_shift (r : Run) (now : Nanos) : Shift now r (r.start now).1 := by
  rcases start_cases r now with hRefused | ⟨hState, hSteps, hStarted⟩
  · rw [hRefused]
    exact .idle now r
  · rw [hStarted]
    exact .start hState hSteps

theorem dismiss_shift (r : Run) (now : Nanos) : Shift now r r.dismiss.1 := by
  unfold dismiss
  split
  · exact .drop
  · exact .idle now r

theorem meet_shift (r : Run) (demand : Option Demand) (now : Nanos) : Shift now r (r.meet demand now).1 := by
  unfold meet
  split
  · exact start_shift r now
  · exact advance_shift r _ now
  · exact dismiss_shift r now
  · exact .idle now r

/-- Nothing that is shown depends on the deadline. -/
theorem Shift.of_due {now : Nanos} {r r' : Run} {due : Option Nanos} (h : Shift now { r with due := due } r') :
    Shift now r r' := by
  cases h with
  | stay hSame => exact .stay ⟨hSame.state, hSame.views, hSame.steps, hSame.settings, hSame.style⟩
  | start hState hSteps => exact .start hState hSteps
  | next hState hMore => exact .next hState hMore
  | finish => exact .finish
  | drop => exact .drop

theorem tick_shift (r : Run) (now : Nanos) : Shift now r (r.tick now).1 := by
  unfold tick
  split
  · split
    · exact (advance_shift { r with due := none } .timer now).of_due
    · exact .idle now r
  · exact .idle now r

/-- An operation other than a frame. -/
theorem perform_shift {r : Run} {op : Op} (now : Nanos) (hNoFrame : ∀ area b anchors, op ≠ .draw area b anchors)
    (hNoChange : ∀ index view, op ≠ .revise index view) : Shift now r (r.perform op now).1 := by
  cases op with
  | start => exact start_shift r now
  | advance trigger => exact advance_shift r trigger now
  | step => exact advance_shift r .explicit now
  | tick => exact tick_shift r now
  | dismiss => exact dismiss_shift r now
  | handle e =>
    have hMeet : ((r.perform (.handle e) now).1) = (r.meet (r.demand e) now).1 := (handle_eq_meet r e now).1
    rw [hMeet]
    exact meet_shift r (r.demand e) now
  | draw area b anchors => exact absurd rfl (hNoFrame area b anchors)
  | pass d => exact .idle now r
  | revise index view => exact absurd rfl (hNoChange index view)

end Run

/-! ## Sessions -/

/-- What a run owns at a step of this kind: its bubble shows the step, and bubble and veil have the look that the
settings ask for. -/
structure Sight (settings : Settings) (style : BubbleStyle) (kind : StepKind) (v : RunViews) : Prop where
  shows  : v.bubble.Shows kind
  outfit : v.bubble.outfit = (style, settings.minBubbleHorizontalMargin, settings.preferredBubbleMaxWidth)
  tint   : v.veil.map Veil.tint =
    settings.presentationMode.dimming.map fun (color, alpha) => (Veil.attach color alpha 0).tint

theorem Sight.framed {settings settings' : Settings} {style : BubbleStyle} {step : Step} {ctx : Context} {b : Buffer}
    {now : Nanos} {before after : RunViews} {picture : Buffer} (h : Sight settings style step.kind before)
    (hFramed : Run.Framed settings' step ctx b now before after picture) : Sight settings style step.kind after := by
  obtain ⟨b', hBubble⟩ := hFramed.bubble
  refine ⟨?_, ?_, hFramed.tint.trans h.tint⟩
  · rw [hBubble]
    exact .drawn (.laidOut h.shows rfl ctx now) ..
  · obtain ⟨drawn, hDrawn⟩ := (before.bubble.layout step ctx now).1.draw_keeps step.content ctx.container b' now
    rw [hBubble, hDrawn]
    exact (before.bubble.layout_keeps step ctx now).1.trans h.outfit

namespace Run

/-- A frame over an area on the screen, with the anchors of the steps on the screen too as far as they resolve. -/
def Op.OnScreen (steps : List Step) : Op → Prop
  | .draw area _ anchors => area.OnScreen ∧ ∀ step ∈ steps, ∀ anchor location bounds,
      step.kind = .highlighted anchor location → (Target.ofAnchor anchor).resolve (.of area anchors) = .ok bounds →
        bounds.OnScreen
  | _ => True

theorem onScreen_concat {steps : List Step} {ops : List Op} {last : Op} :
    (∀ op ∈ ops ++ [last], op.OnScreen steps) ↔ (∀ op ∈ ops, op.OnScreen steps) ∧ last.OnScreen steps := by
  rw [List.forall_mem_append, List.forall_mem_singleton]

/-- In a frame on the screen, whatever the veil is to leave out is on the screen. -/
theorem onScreen_of_spotlit {steps : List Step} {settings : Settings} {area : Rect} {b : Buffer} {anchors : Anchors}
    {own : Step} {bounds : Bounds} (hFrame : Op.OnScreen steps (.draw area b anchors)) (hOwn : own ∈ steps)
    (hSpot : Spotlit settings own.kind (.of area anchors) bounds) : bounds.OnScreen := by
  obtain ⟨-, anchor, location, hKind, hAnchor⟩ := hSpot
  exact hFrame.2 own hOwn anchor location bounds hKind hAnchor

/-- What a run shows after some operations. -/
structure Scene (steps : List Step) (settings : Settings) (style : BubbleStyle) (ops : List Op) (r : Run) : Prop where
  looks   : r.steps.map Step.look = steps.map Step.look
  made    : r.settings = settings ∧ r.style = style
  sight   : ∀ i, r.state = .running i → ∃ step views, r.steps[i]? = some step ∧ r.views = some views ∧
    Sight settings style step.kind views
  centred : (∀ op ∈ ops, op.OnScreen steps) → ∀ views ∈ r.views, ∀ veil ∈ views.veil, ∀ hole ∈ veil.targetHole,
    hole.CentredOnScreen

variable {steps : List Step} {settings : Settings} {style : BubbleStyle} {ops : List Op} {r : Run}

/-- The step that is shown looks like the one that the run began with. -/
theorem Scene.own_step (h : Scene steps settings style ops r) {i : Nat} {step : Step}
    (hStep : r.steps[i]? = some step) : ∃ own, steps[i]? = some own ∧ step.look = own.look := by
  have hLook : (r.steps.map Step.look)[i]? = some step.look := by rw [List.getElem?_map, hStep, Option.map_some]
  rw [h.looks, List.getElem?_map] at hLook
  obtain ⟨own, hOwn, hSame⟩ := Option.map_eq_some_iff.mp hLook
  exact ⟨own, hOwn, hSame.symm⟩

theorem Scene.fresh (hLooks : r.steps.map Step.look = steps.map Step.look)
    (hMade : r.settings = settings ∧ r.style = style) (hState : ∀ i, r.state ≠ .running i) (hViews : r.views = none) :
    Scene steps settings style ops r where
  looks := hLooks
  made := hMade
  sight := fun i h => absurd h (hState i)
  centred := by
    intro _ views h
    rw [hViews] at h
    cases h

theorem Scene.shift (h : Scene steps settings style ops r) (more : Op) {now : Nanos} {r' : Run}
    (hShift : Shift now r r') : Scene steps settings style (ops ++ [more]) r' := by
  cases hShift with
  | stay hSame =>
    refine ⟨?_, ?_, ?_, ?_⟩
    · rw [hSame.steps]
      exact h.looks
    · rw [hSame.settings, hSame.style]
      exact h.made
    · rw [hSame.state, hSame.steps, hSame.views]
      exact h.sight
    · rw [hSame.views]
      exact fun hAll => h.centred (onScreen_concat.mp hAll).1
  | start _ hSteps =>
    -- the views are new, and the veil has no hole yet
    obtain ⟨rfl, rfl⟩ := h.made
    refine ⟨h.looks, ⟨rfl, rfl⟩, ?_, ?_⟩
    · intro i hState
      cases hState
      refine ⟨r.steps[0], _, List.getElem?_eq_getElem hSteps, rfl, .begun _ now, rfl, ?_⟩
      show (r.settings.presentationMode.dimming.map _).map Veil.tint = _
      rw [Option.map_map]
      rfl
    · rintro - views hViews veil hVeil hole hHole
      cases hViews
      obtain ⟨tint, -, rfl⟩ := Option.map_eq_some_iff.mp hVeil
      cases hHole
  | @next i hState hMore =>
    -- the views go on to the next step
    obtain ⟨step, views, hStep, hViews, hSight⟩ := h.sight i hState
    have hMoved : (r.showStep (i + 1) now).views = some { views with
        bubble := views.bubble.beginTransition now
        holeMove := some now
        lastError := none
        contentArea := none } := by
      unfold showStep
      rw [hViews]
      rfl
    refine ⟨h.looks, h.made, ?_, ?_⟩
    · intro j hRunning
      cases hRunning
      exact ⟨r.steps[i + 1], _, List.getElem?_eq_getElem hMore, hMoved, .begun views.bubble now, hSight.outfit,
        hSight.tint⟩
    · intro hAll views' hViews'
      rw [hMoved] at hViews'
      cases hViews'
      exact h.centred (onScreen_concat.mp hAll).1 views hViews
  | finish => exact .fresh h.looks h.made (fun i => RunState.noConfusion) rfl
  | drop => exact .fresh h.looks h.made (fun i => RunState.noConfusion) rfl

theorem Scene.revise (h : Scene steps settings style ops r) (index : Nat) (view : CustomContent) :
    Scene steps settings style (ops ++ [.revise index view]) (r.revise index view) := by
  have hLooks := revise_look r index view
  refine ⟨hLooks.trans h.looks, h.made, ?_, fun hAll => h.centred (onScreen_concat.mp hAll).1⟩
  intro i hState
  obtain ⟨step, views, hStep, hViews, hSight⟩ := h.sight i hState
  -- the step has another view inside, and is otherwise the same
  have hThere : ((r.revise index view).steps.map Step.look)[i]? = some step.look := by
    rw [hLooks, List.getElem?_map, hStep, Option.map_some]
  rw [List.getElem?_map] at hThere
  obtain ⟨step', hStep', hLook⟩ := Option.map_eq_some_iff.mp hThere
  have hKind : step'.kind = step.kind := congrArg Prod.fst hLook
  exact ⟨step', views, hStep', hViews, by rw [hKind]; exact hSight⟩

theorem Scene.draw (h : Scene steps settings style ops r) (area : Rect) (b : Buffer) (anchors : Anchors) (now : Nanos) :
    Scene steps settings style (ops ++ [.draw area b anchors]) (r.draw area b anchors now).1 := by
  by_cases hShown : ∃ views step, r.views = some views ∧ r.step? = some step
  · obtain ⟨before, step, hBefore, hStep⟩ := hShown
    obtain ⟨after, hAfter, hFramed⟩ := draw_framed hBefore hStep area b anchors now
    rw [hAfter]
    refine ⟨h.looks, h.made, ?_, ?_⟩
    · intro i hState
      obtain ⟨own, views, hOwn, hViews, hSight⟩ := h.sight i hState
      rw [step?_of_running (r := r) hState, hOwn] at hStep
      rw [hBefore] at hViews
      cases hStep
      cases hViews
      exact ⟨step, after, hOwn, rfl, hSight.framed hFramed⟩
    · intro hAll views hViews veil hVeil hole hHole
      -- the hole is sent to an anchor of this frame, or stays centred where it was
      obtain ⟨hEarlier, hFrame⟩ := onScreen_concat.mp hAll
      obtain ⟨i, -, hIndex⟩ := step?_eq_some hStep
      obtain ⟨own, hOwn, hLook⟩ := h.own_step hIndex
      have hKind : step.kind = own.kind := congrArg Prod.fst hLook
      cases hViews
      obtain ⟨old, hOld, hTarget⟩ := hFramed.hole veil hVeil
      cases hTarget.symm.trans hHole
      refine centred_holeTarget _ _ _ hFrame.1 (fun bounds hSpot => ?_) (h.centred hEarlier before hBefore old hOld)
      rw [hKind] at hSpot
      exact onScreen_of_spotlit hFrame (List.mem_of_getElem? hOwn) hSpot
  · -- nothing is drawn
    have hNothing : (r.draw area b anchors now).1 = r := by
      unfold Run.draw
      split
      · next views step hViews hStep => exact absurd ⟨views, step, hViews, hStep⟩ hShown
      · rfl
    rw [hNothing]
    exact ⟨h.looks, h.made, h.sight, fun hAll => h.centred (onScreen_concat.mp hAll).1⟩

/-- A frame at a step, in terms of the step that the run began with. -/
theorem Scene.frame (h : Scene steps settings style ops r) {i : Nat} (hState : r.state = .running i) (area : Rect)
    (b : Buffer) (anchors : Anchors) (now : Nanos) : ∃ own shown before after,
    steps[i]? = some own ∧ shown.look = own.look ∧ r.step? = some shown ∧ Sight settings style shown.kind before ∧
      (r.draw area b anchors now).1.views = some after ∧
      Framed settings shown (.of area anchors) b now before after (r.draw area b anchors now).2.1 := by
  obtain ⟨shown, before, hShown, hBefore, hSight⟩ := h.sight i hState
  obtain ⟨own, hOwn, hLook⟩ := h.own_step hShown
  obtain ⟨rfl, -⟩ := h.made
  have hStep : r.step? = some shown := (step?_of_running hState).trans hShown
  obtain ⟨after, hAfter, hFramed⟩ := draw_framed hBefore hStep area b anchors now
  exact ⟨own, shown, before, after, hOwn, hLook, hStep, hSight, by rw [hAfter], hFramed⟩

theorem Scene.perform (h : Scene steps settings style ops r) (op : Op) (now : Nanos) :
    Scene steps settings style (ops ++ [op]) (r.perform op now).1 := by
  cases op with
  | draw area b anchors => exact h.draw area b anchors now
  | revise index view => exact h.revise index view
  | _ => exact h.shift _ (perform_shift now (by simp) (by simp))

end Run

namespace Session

open Run (Op)

/-- An invariant that may speak of the operations so far. -/
theorem after_induction_history {P : List Op → Session → Prop}
    (hStep : ∀ ops s op, P ops s → P (ops ++ [op]) (s.step op)) {s : Session} (hStart : P [] s) (ops : List Op) :
    P ops (s.after ops) := by
  -- from the last operation backwards
  induction ops using List.reverseRecOn with
  | nil => exact hStart
  | append_singleton ops op ih =>
    unfold after at ih ⊢
    rw [List.foldl_append]
    exact hStep ops _ op ih

/-- A run with these steps, settings and style came to this session by some operations, whatever it is called, whoever
waits for its end, and whenever it began. -/
def Reached (steps : List Step) (settings : Settings) (style : BubbleStyle) (ops : List Op) (s : Session) : Prop :=
  ∃ identity delegate now, s = (opening steps settings style identity delegate now).after ops

theorem Reached.scene {steps : List Step} {settings : Settings} {style : BubbleStyle} {ops : List Op} {s : Session}
    (h : Reached steps settings style ops s) : Run.Scene steps settings style ops s.run := by
  obtain ⟨identity, delegate, now, rfl⟩ := h
  refine after_induction_history (P := fun ops s => Run.Scene steps settings style ops s.run) ?_ ?_ ops
  · exact fun ops s op h => h.perform op s.now
  · exact .fresh rfl ⟨rfl, rfl⟩ (fun i => RunState.noConfusion) rfl

end Session

end GuidedTour
