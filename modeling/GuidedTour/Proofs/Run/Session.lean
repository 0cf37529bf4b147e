import GuidedTour.Proofs.Run.Turn

/-!
# Sessions: a run under a clock

A session is a run together with the clock it lives under, while operations and the passing of time come in any
order. An onlooker writes down which step came on the screen when, by looking at the state before and after each
operation, and counts the advances that were accepted. What the run owns is then stated in the onlooker's terms.

Main results:

* `perform_turn` - every operation takes one of the turns that its demand allows.
* `session_consistent` - after every operation the state, the views and the deadline fit together: the deadline is
  the time at which the step was shown plus its delay, and there is none elsewhere.
-/

namespace GuidedTour

open Layout Screen

namespace Run

/-! ## Operations -/

/-- What can happen to a run. -/
inductive Op where
  | start
  | advance (trigger : Trigger)
  /-- The direct call for the next step. -/
  | step
  | tick
  | dismiss
  | handle (e : Event)
  | draw (area : Rect) (b : Buffer) (anchors : Anchors)
  /-- The clock goes on. -/
  | pass (d : Nanos)
  /-- The view inside a step's bubble changes by itself, and answers and draws as `view` from then on. -/
  | revise (index : Nat) (view : CustomContent)

/-- The run after the view inside a step's bubble has changed. Other contents never change. -/
def revise (r : Run) (index : Nat) (view : CustomContent) : Run :=
  { r with
    steps := r.steps.modify index fun s =>
      if s.content.isCustom then { s with content := .custom view } else s }

/-- Carries out an operation at a reading of the clock. -/
def perform (r : Run) (op : Op) (now : Nanos) : Run × Transition × List Effect :=
  match op with
  | .start => ((r.start now).1, .ignored, [])
  | .advance trigger => r.advance trigger now
  | .step => r.advance .explicit now
  | .tick => r.tick now
  | .dismiss => (r.dismiss.1, .ignored, [])
  | .handle e => ((r.handle e now).1, r.answer e now, (r.handle e now).2.2)
  | .draw area b anchors => ((r.draw area b anchors now).1, .ignored, (r.draw area b anchors now).2.2)
  | .pass _ => (r, .ignored, [])
  | .revise index view => (r.revise index view, .ignored, [])

/-- What an operation demands of a run. -/
def Op.demand (op : Op) (r : Run) (now : Nanos) : Option Demand :=
  match op with
  | .start => some .start
  | .advance trigger => some (.advance trigger)
  | .step => some (.advance .explicit)
  | .tick => r.tickDemand now
  | .dismiss => some .dismiss
  | .handle e => r.demand e
  | .draw _ _ _ | .pass _ | .revise _ _ => none

theorem revise_pace (r : Run) (index : Nat) (view : CustomContent) :
    (r.revise index view).steps.map Step.pace = r.steps.map Step.pace := by
  apply List.ext_getElem?
  intro i
  simp only [revise, List.getElem?_map, List.getElem?_modify]
  cases r.steps[i]? with
  | none => rfl
  | some s =>
    simp only [Option.map_eq_map, Option.map_some, Option.some.injEq]
    split_ifs <;> rfl

theorem perform_turn {r : Run} (op : Op) (now : Nanos) (hSound : Sound r) :
    Turn now r (op.demand r now) (r.perform op now) := by
  cases op with
  | start => exact start_turn r now
  | advance trigger => exact advance_turn r trigger now
  | step => exact advance_turn r .explicit now
  | tick => exact tick_turn now hSound
  | dismiss => exact dismiss_turn r now
  | handle e => exact handle_turn r e now
  | draw area b anchors => exact draw_turn r area b anchors now
  | pass d => exact .idle now r _
  | revise index view =>
    exact .stay ⟨rfl, rfl, rfl, rfl, rfl⟩ ⟨revise_pace r index view, rfl, rfl⟩
      fun _ h => absurd h List.not_mem_nil

end Run

/-! ## Sessions -/

/-- A run under a clock, and what an onlooker has noted: each step that came on the screen with the reading of the
clock then, and how many advances were accepted. -/
structure Session where
  run      : Run
  now      : Nanos
  shown    : List (Nat × Nanos) := []
  accepted : Nat := 0

/-- The step that comes on the screen between two states. -/
def RunState.appearing (before after : RunState) : Option Nat :=
  match after with
  | .running i => if before = after then none else some i
  | _ => none

namespace Session

open Run (Op)

/-- A session that begins with a run of these steps, not started yet. -/
def opening (steps : List Step) (settings : Settings) (style : BubbleStyle) (identity : Option String)
    (delegate : Option Delegate) (now : Nanos) : Session :=
  { run := { steps := steps, settings := settings, style := style, identity := identity, delegate := delegate }
    now := now }

/-- Carries out an operation, or lets time pass. -/
def step (s : Session) (op : Op) : Session :=
  let out := s.run.perform op s.now
  { run := out.1
    now := match op with
      | .pass d => s.now + d
      | _ => s.now
    shown := s.shown ++ ((s.run.state.appearing out.1.state).map (·, s.now)).toList
    accepted := if out.2.1 = .ignored then s.accepted else s.accepted + 1 }

/-- The session after a sequence of operations. -/
def after (s : Session) (ops : List Op) : Session := ops.foldl step s

theorem after_induction {P : Session → Prop} (hStep : ∀ s op, P s → P (s.step op)) {s : Session}
    (hStart : P s) (ops : List Op) : P (s.after ops) := by
  induction ops generalizing s with
  | nil => exact hStart
  | cons op rest ih => exact ih (hStep s op hStart)

/-! ## The invariant -/

/-- The run of the session is sound and still on the tour it began with, and at a step its deadline is the time at
which the onlooker saw the step appear plus the step's delay. -/
structure Timed (r₀ : Run) (s : Session) : Prop where
  tour  : Run.SameTour r₀ s.run
  sound : Run.Sound s.run
  due   : ∀ i, s.run.state = .running i → ∃ since, s.shown.getLast? = some (i, since) ∧
    s.run.due = (r₀.delayAt i).map (since + ·)

theorem opening_timed (steps : List Step) (settings : Settings) (style : BubbleStyle) (identity : Option String)
    (delegate : Option Delegate) (now : Nanos) :
    Timed (opening steps settings style identity delegate now).run
      (opening steps settings style identity delegate now) where
  tour := .refl _
  sound := .fresh rfl rfl rfl
  due := by intro i h; cases h

/-- What an operation makes of a session, by the turn that its run takes. -/
theorem Timed.turn {r₀ : Run} {s : Session} (h : Timed r₀ s) (op : Op) :
    ∃ demand out, op.demand s.run s.now = demand ∧ Run.Turn s.now s.run demand out ∧
      (s.step op).run = out.1 ∧
      (s.step op).shown = s.shown ++ ((s.run.state.appearing out.1.state).map (·, s.now)).toList ∧
      (s.step op).accepted = if out.2.1 = .ignored then s.accepted else s.accepted + 1 :=
  ⟨_, _, rfl, Run.perform_turn op s.now h.sound, rfl, rfl, rfl⟩

theorem Timed.appear {r₀ : Run} {s : Session} {i : Nat} (h : Timed r₀ s) (r : Run)
    (hTour : Run.SameTour s.run r) (hState : s.run.state ≠ .running i) :
    ∃ since, (s.shown ++ ((s.run.state.appearing (.running i)).map (·, s.now)).toList).getLast? =
      some (i, since) ∧ (r.showStep i s.now).due = (r₀.delayAt i).map (since + ·) := by
  refine ⟨s.now, ?_, ?_⟩
  · rw [RunState.appearing, if_neg hState]
    exact List.getLast?_concat
  · rw [Run.due_showStep, hTour.delayAt, h.tour.delayAt]

theorem step_timed {r₀ : Run} (s : Session) (op : Op) (h : Timed r₀ s) : Timed r₀ (s.step op) := by
  -- tour and soundness are kept by every turn; the deadline needs one case for each of them
  obtain ⟨demand, out, -, hTurn, hRun, hShown', -⟩ := h.turn op
  rw [← hRun] at hShown'
  refine ⟨?_, ?_, ?_⟩
  · rw [hRun]
    exact h.tour.trans hTurn.sameTour
  · rw [hRun]
    exact hTurn.sound h.sound
  rw [hShown', hRun]
  intro i hState
  cases hTurn with
  | stay hPlace hTour hQuiet =>
    -- the same step as before: no new note, and the same deadline
    rw [hPlace.state] at hState
    obtain ⟨since, hShown, hDue⟩ := h.due i hState
    refine ⟨since, ?_, hPlace.due.trans hDue⟩
    rw [hPlace.state, hState, RunState.appearing, if_pos rfl]
    simpa using hShown
  | start hBefore hSteps =>
    -- the first step appears, on a run that has just been given its views
    cases hState
    exact h.appear { s.run with state := .probing, views := some (s.run.attach s.now) } ⟨rfl, rfl, rfl⟩
      (by rw [hBefore]; exact RunState.noConfusion)
  | next hBefore hLeave hMore =>
    cases hState
    exact h.appear s.run (.refl _) (by rw [hBefore, Ne, RunState.running.injEq]; omega)
  | finish => cases hState
  | dismiss => cases hState

theorem after_timed {r₀ : Run} {s : Session} (h : Timed r₀ s) (ops : List Op) : Timed r₀ (s.after ops) :=
  after_induction step_timed h ops

/-! ## What a run owns -/

theorem dimming_isSome_iff (mode : PresentationMode) : mode.dimming.isSome = true ↔ mode ≠ .none := by
  cases mode <;> simp [PresentationMode.dimming]

/-- The state of a session's run, and what the run owns in it. -/
structure Consistent (steps : List Step) (settings : Settings) (s : Session) : Prop where
  /-- The run never probes, and shows no step but those it has. -/
  state : s.run.state = .notStarted ∨ (∃ i < steps.length, s.run.state = .running i) ∨
    s.run.state = .completed ∨ s.run.state = .dismissed
  views : s.run.views.isSome = true ↔ ∃ i, s.run.state = .running i
  veil : s.run.hasVeil = true ↔ (∃ i, s.run.state = .running i) ∧ settings.presentationMode ≠ .none
  /-- A deadline belongs to the step that is shown, which needs no interaction and has a delay: its own, or else
  the settings'. It counts from the time at which that step was shown. -/
  due : ∀ t, s.run.due = some t ↔ ∃ i step d since, s.run.state = .running i ∧ steps[i]? = some step ∧
    step.needsInteraction = false ∧ (step.autoAdvance <|> settings.automaticDelay) = some d ∧
    s.shown.getLast? = some (i, since) ∧ t = since + d

theorem Timed.due_iff {r₀ : Run} {s : Session} (h : Timed r₀ s) (t : Nanos) :
    s.run.due = some t ↔ ∃ i step d since, s.run.state = .running i ∧ r₀.steps[i]? = some step ∧
      step.needsInteraction = false ∧ (step.autoAdvance <|> r₀.settings.automaticDelay) = some d ∧
      s.shown.getLast? = some (i, since) ∧ t = since + d := by
  constructor
  · -- a deadline belongs to a step with a delay, and the invariant says since when it counts
    intro hDue
    obtain ⟨i, hState, -⟩ := h.sound.due (by rw [hDue]; rfl)
    obtain ⟨since, hShown, hTime⟩ := h.due i hState
    rw [hDue] at hTime
    obtain ⟨d, hDelay, hSum⟩ := Option.map_eq_some_iff.mp hTime.symm
    obtain ⟨step, hStep, hFree, hOwn⟩ := Run.delayAt_eq_some_iff.mp hDelay
    exact ⟨i, step, d, since, hState, hStep, hFree, hOwn, hShown, hSum.symm⟩
  · -- conversely, the last note is unique, so the deadline is the one that is given
    rintro ⟨i, step, d, since, hState, hStep, hFree, hOwn, hShown, rfl⟩
    obtain ⟨since', hShown', hTime⟩ := h.due i hState
    rw [hShown] at hShown'
    cases hShown'
    rw [hTime, Run.delayAt_eq_some_iff.mpr ⟨step, hStep, hFree, hOwn⟩]
    rfl

theorem Timed.state_cases {r₀ : Run} {s : Session} (h : Timed r₀ s) :
    s.run.state = .notStarted ∨ (∃ i < r₀.steps.length, s.run.state = .running i) ∨
      s.run.state = .completed ∨ s.run.state = .dismissed := by
  cases hState : s.run.state with
  | notStarted => exact .inl rfl
  | probing => exact absurd hState h.sound.not_probing
  | running i => exact .inr (.inl ⟨i, h.tour.length ▸ h.sound.index_lt i hState, rfl⟩)
  | completed => exact .inr (.inr (.inl rfl))
  | dismissed => exact .inr (.inr (.inr rfl))

/--
**A run's possessions.** Whatever sequence of operations, events, frames and clock moves a run goes through, after
each of them it is not started, at one of its steps, completed or dismissed; it owns its views exactly at a step, a
veil exactly at a step unless the screen is to be left alone, and a deadline exactly at a step with a delay that
needs no interaction, counted from the time at which that step was shown.
-/
theorem session_consistent (steps : List Step) (settings : Settings) (style : BubbleStyle)
    (identity : Option String) (delegate : Option Delegate) (now : Nanos) (ops : List Op) :
    Consistent steps settings ((opening steps settings style identity delegate now).after ops) := by
  have h := after_timed (opening_timed steps settings style identity delegate now) ops
  set s := (opening steps settings style identity delegate now).after ops
  refine ⟨h.state_cases, ?_, ?_, h.due_iff⟩
  · rw [h.sound.views, h.sound.isActive_iff]
  · rw [h.sound.veil, Bool.and_eq_true, h.sound.isActive_iff, dimming_isSome_iff, h.tour.settings]
    exact Iff.rfl

end Session

end GuidedTour
