import GuidedTour.Run.Input
import Mathlib.Tactic.Common

/-!
# What an event demands of a run

Keys and mouse actions reach a run through several nested cases: the content of the step answers first,
then the veil, then the background. All of it comes to one question, what the event demands of the run: its
start, an advance with some trigger, its end, or nothing. `demand` answers it without touching the run, and handling
an event is to meet the demand.

Main results:

* `handle_eq_meet` - handling an event does what its demand does, no more.
* `demand_key` / `demand_mouse` - every demand has one of the causes listed there.
* `demand_cases` - an event demands a direct advance only if the content of the step asked for it, and the end of
  the run only for the escape key; no event starts a run or acts for its deadline.
-/

namespace GuidedTour

/-- What is demanded of a run. -/
inductive Demand where
  | start
  | advance (trigger : Trigger)
  | dismiss
  deriving DecidableEq

namespace Run

/-! ## Demands -/

/-- What a key that went down demands. -/
def keyDemand (r : Run) (e : KeyEvent) : Option Demand :=
  match r.keyAction e with
  | .stepWalkthrough => some (.advance .explicit)
  | .consumed => none
  | .ignored =>
    if !r.hasVeil then none
    else if e.key = .esc ∧ r.settings.dismissOnEscape then some .dismiss
    else if isTapKey e.key then some (.advance .tap)
    else none

/-- What a mouse event demands of a run with these views. -/
def mouseDemand (r : Run) (views : RunViews) (e : MouseEvent) : Option Demand :=
  if views.bubble.contains e.position then
    match r.mouseAction views e with
    | .stepWalkthrough => some (.advance .explicit)
    | .ignored => if e.kind = .down .left && views.veil.isNone then some (.advance .tap) else none
    | .consumed => none
  else if views.veil.any (·.isTapped e) then some (.advance .tap)
  else none

/-- What an event demands. -/
def demand (r : Run) (e : Event) : Option Demand :=
  if !r.isActive then none else
    match e with
    | .key e => if e.kind = .press then r.keyDemand e else none
    | .mouse e => r.views.bind fun views => r.mouseDemand views e
    | .other => none

/-- Does what is demanded. -/
def meet (r : Run) (demand : Option Demand) (now : Nanos) : Run × Transition × List Effect :=
  match demand with
  | some .start => ((r.start now).1, .ignored, [])
  | some (.advance trigger) => r.advance trigger now
  | some .dismiss => (r.dismiss.1, .ignored, [])
  | none => (r, .ignored, [])

/-! ## Handling an event is to meet its demand -/

theorem handleKey_eq_meet (r : Run) (e : KeyEvent) (now : Nanos) :
    (r.handleKey e now).1 = (r.meet (r.keyDemand e) now).1 ∧
      (r.handleKey e now).2.2 = (r.meet (r.keyDemand e) now).2.2 := by
  unfold handleKey keyDemand
  cases r.keyAction e with
  | stepWalkthrough => exact ⟨rfl, rfl⟩
  | consumed => exact ⟨rfl, rfl⟩
  | ignored =>
    dsimp only
    split_ifs <;> exact ⟨rfl, rfl⟩

theorem handleMouse_eq_meet (r : Run) (e : MouseEvent) (now : Nanos) :
    (r.handleMouse e now).1 = (r.meet (r.views.bind fun v => r.mouseDemand v e) now).1 ∧
      (r.handleMouse e now).2.2 = (r.meet (r.views.bind fun v => r.mouseDemand v e) now).2.2 := by
  unfold handleMouse
  cases r.views with
  | none => exact ⟨rfl, rfl⟩
  | some views =>
    rw [Option.bind_some, mouseDemand]
    by_cases hOver : views.bubble.contains e.position = true
    · -- over the bubble the content's answer decides
      dsimp only
      rw [if_pos hOver, if_pos hOver]
      cases r.mouseAction views e with
      | stepWalkthrough => exact ⟨rfl, rfl⟩
      | consumed => exact ⟨rfl, rfl⟩
      | ignored => dsimp only; split_ifs <;> exact ⟨rfl, rfl⟩
    · -- beside it the veil does
      dsimp only
      rw [if_neg hOver, if_neg hOver]
      cases views.veil with
      | none => exact ⟨rfl, rfl⟩
      | some veil => dsimp only [Option.any_some]; split_ifs <;> exact ⟨rfl, rfl⟩

theorem handle_eq_meet (r : Run) (e : Event) (now : Nanos) :
    (r.handle e now).1 = (r.meet (r.demand e) now).1 ∧
      (r.handle e now).2.2 = (r.meet (r.demand e) now).2.2 := by
  unfold handle demand
  by_cases hActive : (!r.isActive) = true
  · rw [if_pos hActive, if_pos hActive]
    exact ⟨rfl, rfl⟩
  · rw [if_neg hActive, if_neg hActive]
    cases e with
    | key e =>
      by_cases hPress : e.kind = .press
      · simp only [hPress, if_true]
        exact handleKey_eq_meet r e now
      · simp only [hPress, if_false]
        exact ⟨rfl, rfl⟩
    | mouse e => exact handleMouse_eq_meet r e now
    | other => exact ⟨rfl, rfl⟩

/-! ## What each demand takes -/

/-- Why a key makes a demand: the content asks for the next step, or ignores a key that the veil takes. -/
inductive KeyCause (r : Run) (e : KeyEvent) : Demand → Prop
  | content (hAction : r.keyAction e = .stepWalkthrough) : KeyCause r e (.advance .explicit)
  | escape (hAction : r.keyAction e = .ignored) (hVeil : r.hasVeil = true) (hKey : e.key = .esc)
      (hAllowed : r.settings.dismissOnEscape = true) : KeyCause r e .dismiss
  | tap (hAction : r.keyAction e = .ignored) (hVeil : r.hasVeil = true) (hKey : isTapKey e.key = true) :
      KeyCause r e (.advance .tap)

theorem keyDemand_cause {r : Run} {e : KeyEvent} {d : Demand} (h : r.keyDemand e = some d) :
    KeyCause r e d := by
  unfold keyDemand at h
  split at h
  · next hAction => cases h; exact .content hAction
  · cases h
  · next hAction =>
    split_ifs at h with hVeil hEsc hTap
    · cases h; exact .escape hAction (by simpa using hVeil) hEsc.1 hEsc.2
    · cases h; exact .tap hAction (by simpa using hVeil) hTap

/-- Why a mouse event makes a demand: the content asks for the next step, or the left button goes down over
the bubble of a run without a veil, or over the veil beside the bubble. -/
inductive MouseCause (r : Run) (views : RunViews) (e : MouseEvent) : Demand → Prop
  | content (hOver : views.bubble.contains e.position = true)
      (hAction : r.mouseAction views e = .stepWalkthrough) : MouseCause r views e (.advance .explicit)
  | bubble (hOver : views.bubble.contains e.position = true) (hAction : r.mouseAction views e = .ignored)
      (hDown : e.kind = .down .left) (hVeil : views.veil = none) : MouseCause r views e (.advance .tap)
  | background {veil : Overlay.Veil} (hOver : views.bubble.contains e.position = false)
      (hVeil : views.veil = some veil) (hTap : veil.isTapped e = true) : MouseCause r views e (.advance .tap)

theorem mouseDemand_cause {r : Run} {views : RunViews} {e : MouseEvent} {d : Demand}
    (h : r.mouseDemand views e = some d) : MouseCause r views e d := by
  unfold mouseDemand at h
  by_cases hOver : views.bubble.contains e.position = true
  · rw [if_pos hOver] at h
    split at h
    · next hAction => cases h; exact .content hOver hAction
    · next hAction =>
      split_ifs at h with hClick
      cases h
      rw [Bool.and_eq_true, decide_eq_true_eq, Option.isNone_iff_eq_none] at hClick
      exact .bubble hOver hAction hClick.1 hClick.2
    · cases h
  · rw [if_neg hOver] at h
    cases hVeil : views.veil with
    | none => rw [hVeil] at h; cases h
    | some veil =>
      rw [hVeil, Option.any_some] at h
      split_ifs at h with hTap
      cases h
      exact .background (by simpa using hOver) hVeil hTap

theorem demand_key {r : Run} {e : KeyEvent} {d : Demand} (h : r.demand (.key e) = some d) :
    e.kind = .press ∧ KeyCause r e d := by
  unfold demand at h
  dsimp only at h
  split_ifs at h with hActive hPress
  exact ⟨hPress, keyDemand_cause h⟩

theorem demand_mouse {r : Run} {e : MouseEvent} {d : Demand} (h : r.demand (.mouse e) = some d) :
    ∃ views, r.views = some views ∧ MouseCause r views e d := by
  unfold demand at h
  dsimp only at h
  split_ifs at h with hActive
  obtain ⟨views, hViews, hMouse⟩ := Option.bind_eq_some_iff.mp h
  exact ⟨views, hViews, mouseDemand_cause hMouse⟩

theorem demand_other (r : Run) : r.demand .other = none := by
  unfold demand
  split <;> rfl

/-- The content of the step answers an event by asking for the next step. -/
inductive ContentSteps (r : Run) : Event → Prop
  | key {e : KeyEvent} {step : Step} (hPress : e.kind = .press) (hStep : r.step? = some step)
      (hAnswer : step.content.onKey e = .stepWalkthrough) : ContentSteps r (.key e)
  | mouse {e : MouseEvent} {step : Step} {views : RunViews} {place : ContentPlace} (hViews : r.views = some views)
      (hStep : r.step? = some step) (hPlace : contentPlace views e.position = some place)
      (hAnswer : step.content.onMouse e place = .stepWalkthrough) : ContentSteps r (.mouse e)

theorem keyAction_step {r : Run} {e : KeyEvent} (h : r.keyAction e = .stepWalkthrough) :
    ∃ step, r.step? = some step ∧ step.content.onKey e = .stepWalkthrough := by
  unfold keyAction at h
  split at h
  · next step hStep => exact ⟨step, hStep, h⟩
  · cases h

theorem mouseAction_step {r : Run} {views : RunViews} {e : MouseEvent}
    (h : r.mouseAction views e = .stepWalkthrough) : ∃ place step, contentPlace views e.position = some place ∧
      r.step? = some step ∧ step.content.onMouse e place = .stepWalkthrough := by
  unfold mouseAction at h
  split at h
  · next place step hPlace hStep => exact ⟨place, step, hPlace, hStep, h⟩
  · cases h

/-- The escape key went down, and the settings let it end the run. -/
def Escapes (r : Run) (e : Event) : Prop :=
  ∃ k : KeyEvent, e = .key k ∧ k.kind = .press ∧ k.key = .esc ∧ r.settings.dismissOnEscape = true

/-- An event demands a direct advance for the content, a tap, or the end of the run for the escape key. -/
theorem demand_cases {r : Run} {e : Event} {d : Demand} (h : r.demand e = some d) :
    d = .advance .explicit ∧ ContentSteps r e ∨ d = .advance .tap ∨ d = .dismiss ∧ Escapes r e := by
  cases e with
  | key e =>
    obtain ⟨hPress, hCause⟩ := demand_key h
    cases hCause with
    | content hAction =>
      obtain ⟨step, hStep, hAnswer⟩ := keyAction_step hAction
      exact .inl ⟨rfl, .key hPress hStep hAnswer⟩
    | escape hAction hVeil hKey hAllowed => exact .inr (.inr ⟨rfl, e, rfl, hPress, hKey, hAllowed⟩)
    | tap => exact .inr (.inl rfl)
  | mouse e =>
    obtain ⟨views, hViews, hCause⟩ := demand_mouse h
    cases hCause with
    | content hOver hAction =>
      obtain ⟨place, step, hPlace, hStep, hAnswer⟩ := mouseAction_step hAction
      exact .inl ⟨rfl, .mouse hViews hStep hPlace hAnswer⟩
    | bubble => exact .inr (.inl rfl)
    | background => exact .inr (.inl rfl)
  | other =>
    rw [demand_other] at h
    cases h

theorem demand_explicit {r : Run} {e : Event} (h : r.demand e = some (.advance .explicit)) :
    ContentSteps r e := by
  rcases demand_cases h with ⟨-, hSteps⟩ | hTap | ⟨hEnd, -⟩
  · exact hSteps
  · cases hTap
  · cases hEnd

theorem demand_dismiss {r : Run} {e : Event} (h : r.demand e = some .dismiss) : Escapes r e := by
  rcases demand_cases h with ⟨hDirect, -⟩ | hTap | ⟨-, hEscapes⟩
  · cases hDirect
  · cases hTap
  · exact hEscapes

theorem demand_ne_start (r : Run) (e : Event) : r.demand e ≠ some .start := by
  intro h
  rcases demand_cases h with ⟨hDirect, -⟩ | hTap | ⟨hEnd, -⟩
  · cases hDirect
  · cases hTap
  · cases hEnd

end Run

end GuidedTour
