import GuidedTour.Proofs.Run.Session

/-!
# The course of a run

A run goes through its steps in order, one at a time. Advances come from keys, clicks, the deadline, the content of
a step and direct calls, in any mix and at any readings of the clock; none of them can make two moves at once, skip
a step or show one twice.

Main results:

* `step_move` - an operation makes at most one move, and an advance is accepted exactly when the run moves on.
* `step_held` / `step_tick` - a held step is left by a direct call or a dismissal only, and a tick leaves a step
  only when its delay has passed.
* `session_course` - the steps appear in order without gaps, and a run completes at exactly its last accepted
  advance.
-/

namespace GuidedTour

namespace Run

/-! ## The causes of a demand -/

/-- A direct call for the next step, by the program or by the content of the step that is shown. -/
def Op.IsDirect (op : Op) (r : Run) : Prop :=
  op = .advance .explicit ∨ op = .step ∨ ∃ e, op = .handle e ∧ r.ContentSteps e

/-- A call that ends the run, or the escape key where it does so. -/
def Op.Ends (op : Op) (r : Run) : Prop := op = .dismiss ∨ ∃ e, op = .handle e ∧ r.Escapes e

theorem tickDemand_eq_some {r : Run} {now : Nanos} {d : Demand} (h : r.tickDemand now = some d) :
    d = .advance .timer ∧ ∃ due, r.due = some due ∧ due ≤ now := by
  unfold tickDemand at h
  cases hDue : r.due with
  | none => rw [hDue] at h; cases h
  | some due =>
    rw [hDue, Option.any_some] at h
    split_ifs at h with hPassed
    cases h
    exact ⟨rfl, due, rfl, of_decide_eq_true hPassed⟩

theorem Op.demand_start {op : Op} {r : Run} {now : Nanos} (h : op.demand r now = some .start) : op = .start := by
  cases op with
  | start => rfl
  | tick => cases (tickDemand_eq_some h).1
  | handle e => exact absurd h (demand_ne_start r e)
  | _ => cases h

theorem Op.demand_direct {op : Op} {r : Run} {now : Nanos} (h : op.demand r now = some (.advance .explicit)) :
    op.IsDirect r := by
  cases op with
  | advance trigger => cases h; exact .inl rfl
  | step => exact .inr (.inl rfl)
  | tick => cases (tickDemand_eq_some h).1
  | handle e => exact .inr (.inr ⟨e, rfl, demand_explicit h⟩)
  | _ => cases h

theorem Op.demand_ends {op : Op} {r : Run} {now : Nanos} (h : op.demand r now = some .dismiss) : op.Ends r := by
  cases op with
  | dismiss => exact .inl rfl
  | tick => cases (tickDemand_eq_some h).1
  | handle e => exact .inr ⟨e, rfl, demand_dismiss h⟩
  | _ => cases h

end Run

/-! ## Moves -/

/-- The moves of a run of `n` steps, with the number of advances accepted before and after. -/
inductive Move (n : Nat) : RunState × Nat → RunState × Nat → Prop
  | stay {state : RunState} {a : Nat} : Move n (state, a) (state, a)
  | start {a : Nat} (hSome : 0 < n) : Move n (.notStarted, a) (.running 0, a)
  | next {i a : Nat} (hMore : i + 1 < n) : Move n (.running i, a) (.running (i + 1), a + 1)
  | finish {i a : Nat} (hLast : i + 1 = n) : Move n (.running i, a) (.completed, a + 1)
  | dismiss {i a : Nat} : Move n (.running i, a) (.dismissed, a)

theorem Move.ended {n a a' : Nat} {before after : RunState} (h : Move n (before, a) (after, a'))
    (hEnded : before = .completed ∨ before = .dismissed) : after = before := by
  cases h with
  | stay => rfl
  | _ => rcases hEnded with hState | hState <;> cases hState

/-- How many advances were accepted and how many steps appeared, by how far a run of `n` steps is. -/
def Tally (n accepted shown : Nat) : RunState → Prop
  | .notStarted => accepted = 0 ∧ shown = 0
  | .probing => False
  | .running i => i < n ∧ accepted = i ∧ shown = i + 1
  | .completed => 0 < n ∧ accepted = n ∧ shown = n
  | .dismissed => accepted < n ∧ shown = accepted + 1

/-- A move keeps the tally, and the step that appears is the next one in order. -/
theorem Move.tally {n a a' shown : Nat} {before after : RunState} (h : Move n (before, a) (after, a'))
    (hTally : Tally n a shown before) :
    Tally n a' (shown + (before.appearing after).toList.length) after ∧
      ∀ i, before.appearing after = some i → i = shown := by
  cases h with
  | stay =>
    -- a step that is still there does not appear again
    have hNone : before.appearing before = none := by
      cases before <;> simp [RunState.appearing]
    rw [hNone]
    exact ⟨hTally, fun i h => by cases h⟩
  | start hSome =>
    obtain ⟨hCount, hShown⟩ := hTally
    refine ⟨⟨hSome, hCount, by simp [hShown, RunState.appearing]⟩, fun i h => ?_⟩
    cases h
    exact hShown.symm
  | @next j _ hMore =>
    obtain ⟨-, hCount, hShown⟩ := hTally
    have hAppears : (RunState.running j).appearing (.running (j + 1)) = some (j + 1) := by
      simp [RunState.appearing]
    rw [hAppears]
    refine ⟨⟨hMore, by omega, by simp [hShown]⟩, fun i h => ?_⟩
    cases h
    exact hShown.symm
  | finish hLast =>
    obtain ⟨hIndex, hCount, hShown⟩ := hTally
    exact ⟨⟨by omega, by omega, by simp [RunState.appearing]; omega⟩, fun i h => by cases h⟩
  | dismiss =>
    obtain ⟨hIndex, hCount, hShown⟩ := hTally
    exact ⟨⟨by omega, by simp [RunState.appearing]; omega⟩, fun i h => by cases h⟩

theorem Tally.shown_le {n accepted shown : Nat} {state : RunState} (h : Tally n accepted shown state) :
    shown ≤ n := by
  cases state with
  | notStarted =>
    obtain ⟨-, hShown⟩ := h
    omega
  | probing => exact h.elim
  | running i =>
    obtain ⟨hIndex, -, hShown⟩ := h
    omega
  | completed =>
    obtain ⟨-, -, hShown⟩ := h
    omega
  | dismissed =>
    obtain ⟨hCount, hShown⟩ := h
    omega

theorem Tally.completed_iff {n accepted shown : Nat} {state : RunState} (h : Tally n accepted shown state) :
    state = .completed ↔ 0 < n ∧ accepted = n := by
  cases state with
  | notStarted =>
    obtain ⟨hCount, -⟩ := h
    exact ⟨RunState.noConfusion, fun hAll => by omega⟩
  | probing => exact h.elim
  | running i =>
    obtain ⟨hIndex, hCount, -⟩ := h
    exact ⟨RunState.noConfusion, fun hAll => by omega⟩
  | completed => exact ⟨fun _ => ⟨h.1, h.2.1⟩, fun _ => rfl⟩
  | dismissed =>
    obtain ⟨hCount, -⟩ := h
    exact ⟨RunState.noConfusion, fun hAll => by omega⟩

namespace Session

open Run (Op)

variable {r₀ : Run} {s : Session}

theorem step_move (h : Timed r₀ s) (op : Op) :
    Move r₀.steps.length (s.run.state, s.accepted) ((s.step op).run.state, (s.step op).accepted) := by
  obtain ⟨demand, out, -, hTurn, hRun, -, hCount⟩ := h.turn op
  rw [← h.tour.length, hRun, hCount]
  cases hTurn with
  | stay hPlace hTour hQuiet =>
    rw [hPlace.state]
    exact .stay
  | start hState hSteps =>
    rw [hState]
    exact .start hSteps
  | next hState hLeave hMore =>
    rw [hState]
    exact .next hMore
  | finish hState hLeave hLast =>
    -- a sound run shows one of its steps, so the last one is meant
    have hIndex := h.sound.index_lt _ hState
    rw [hState]
    exact .finish (by omega)
  | dismiss hActive =>
    obtain ⟨i, hState⟩ := h.sound.isActive_iff.mp hActive
    rw [hState]
    exact .dismiss

theorem step_start (h : Timed r₀ s) (op : Op) (hState : s.run.state = .notStarted)
    (hMoved : (s.step op).run.state ≠ .notStarted) : op = .start := by
  obtain ⟨demand, out, hDemand, hTurn, hRun, -, -⟩ := h.turn op
  rw [hRun] at hMoved
  cases hTurn with
  | stay hPlace => exact absurd (hPlace.state.trans hState) hMoved
  | start => exact Op.demand_start hDemand
  | next hRunning => rw [hState] at hRunning; cases hRunning
  | finish hRunning => rw [hState] at hRunning; cases hRunning
  | dismiss hActive => rw [Run.isActive, hState] at hActive; cases hActive

theorem step_dismissed (h : Timed r₀ s) (op : Op) (hMoved : (s.step op).run.state ≠ s.run.state)
    (hGone : (s.step op).run.state = .dismissed) : op.Ends s.run := by
  obtain ⟨demand, out, hDemand, hTurn, hRun, -, -⟩ := h.turn op
  rw [hRun] at hMoved hGone
  cases hTurn with
  | stay hPlace => exact absurd hPlace.state hMoved
  | start => cases hGone
  | next => cases hGone
  | finish => cases hGone
  | dismiss => exact Op.demand_ends hDemand

theorem step_held (h : Timed r₀ s) (op : Op) {i : Nat} (hState : s.run.state = .running i)
    (hHeld : s.run.isHeld i = true) (hLeft : (s.step op).run.state ≠ .running i) :
    op.IsDirect s.run ∨ op.Ends s.run ∧ (s.step op).run.state = .dismissed := by
  obtain ⟨demand, out, hDemand, hTurn, hRun, -, -⟩ := h.turn op
  -- a held step is left by an advance only if that is a direct one
  have hExplicit : ∀ {trigger : Trigger} {j : Nat}, s.run.state = .running j →
      trigger = .explicit ∨ s.run.isHeld j = false → trigger = .explicit := by
    intro trigger j hRunning hLeave
    rw [hState] at hRunning
    cases hRunning
    exact hLeave.resolve_right (by rw [hHeld]; decide)
  rw [hRun] at hLeft ⊢
  cases hTurn with
  | stay hPlace => exact absurd (hPlace.state.trans hState) hLeft
  | start hBefore => rw [hState] at hBefore; cases hBefore
  | next hRunning hLeave =>
    rw [hExplicit hRunning hLeave] at hDemand
    exact .inl (Op.demand_direct hDemand)
  | finish hRunning hLeave =>
    rw [hExplicit hRunning hLeave] at hDemand
    exact .inl (Op.demand_direct hDemand)
  | dismiss => exact .inr ⟨Op.demand_ends hDemand, rfl⟩

theorem step_tick (h : Timed r₀ s) (hMoved : (s.step .tick).run.state ≠ s.run.state) :
    ∃ due, s.run.due = some due ∧ due ≤ s.now := by
  obtain ⟨demand, out, hDemand, hTurn, hRun, -, -⟩ := h.turn .tick
  have hCome : ∀ {d : Demand}, demand = some d → ∃ due, s.run.due = some due ∧ due ≤ s.now :=
    fun hSome => (Run.tickDemand_eq_some (hDemand.trans hSome)).2
  rw [hRun] at hMoved
  -- whatever moves the run was demanded, and a tick demands something only then
  cases hTurn with
  | stay hPlace => exact absurd hPlace.state hMoved
  | start => exact hCome rfl
  | next => exact hCome rfl
  | finish => exact hCome rfl
  | dismiss => exact hCome rfl

/-! ## The steps in order -/

/-- The session is timed, the tally fits, and the steps have appeared in order. -/
structure Ordered (r₀ : Run) (s : Session) : Prop where
  timed : Timed r₀ s
  tally : Tally r₀.steps.length s.accepted s.shown.length s.run.state
  shown : s.shown.map Prod.fst = List.range s.shown.length

theorem step_ordered (s : Session) (op : Op) (h : Ordered r₀ s) : Ordered r₀ (s.step op) := by
  -- the tally and the notes grow by the same move
  obtain ⟨-, out, -, -, hRun, hShown, -⟩ := h.timed.turn op
  rw [← hRun] at hShown
  obtain ⟨hTally, hNext⟩ := (step_move h.timed op).tally h.tally
  refine ⟨step_timed s op h.timed, ?_, ?_⟩
  · rw [hShown, List.length_append]
    cases hAppears : s.run.state.appearing (s.step op).run.state <;> simpa [hAppears] using hTally
  · rw [hShown, List.map_append, List.length_append, h.shown]
    cases hAppears : s.run.state.appearing (s.step op).run.state with
    | none => simp
    | some i =>
      rw [hNext i hAppears]
      exact List.range_succ.symm

theorem ended_after (h : Timed r₀ s) (hEnded : s.run.state = .completed ∨ s.run.state = .dismissed)
    (more : List Op) : (s.after more).run.state = s.run.state := by
  -- by induction on the operations; the session stays timed, so each of them makes a move
  refine (after_induction (P := fun t => Timed r₀ t ∧ t.run.state = s.run.state) ?_ ⟨h, rfl⟩ more).2
  rintro t op ⟨hTimed, hState⟩
  refine ⟨step_timed t op hTimed, ?_⟩
  rw [(step_move hTimed op).ended (by rwa [hState]), hState]

/-- How far a session of a run of `n` steps has come. -/
structure Course (n : Nat) (s : Session) : Prop where
  /-- The steps appeared in order, none was left out and none appeared twice. -/
  shown : s.shown.map Prod.fst = List.range s.shown.length
  shown_le : s.shown.length ≤ n
  /-- The step that is shown is the one that as many accepted advances lead to. -/
  running : ∀ i, s.run.state = .running i → i < n ∧ s.accepted = i ∧ s.shown.length = i + 1
  completed : s.run.state = .completed ↔ 0 < n ∧ s.accepted = n
  completed_shown : s.run.state = .completed → s.shown.length = n
  /-- A run that has ended never changes again. -/
  ended : ∀ more : List Op, s.run.state = .completed ∨ s.run.state = .dismissed →
    (s.after more).run.state = s.run.state

theorem Ordered.course (h : Ordered r₀ s) : Course r₀.steps.length s where
  shown := h.shown
  shown_le := h.tally.shown_le
  running := by
    intro i hState
    have hTally := h.tally
    rwa [hState] at hTally
  completed := h.tally.completed_iff
  completed_shown := by
    intro hState
    have hTally := h.tally
    rw [hState] at hTally
    exact hTally.2.2
  ended := fun more hEnded => ended_after h.timed hEnded more

/-- What one operation may do to a session of a run with these steps and settings. -/
structure Lawful (steps : List Step) (settings : Settings) (s : Session) (op : Op) : Prop where
  /-- It makes at most one move, and exactly the moves to the next step and to the end are accepted advances. -/
  move : Move steps.length (s.run.state, s.accepted) ((s.step op).run.state, (s.step op).accepted)
  start : s.run.state = .notStarted → (s.step op).run.state ≠ .notStarted → op = .start
  dismissed : (s.step op).run.state ≠ s.run.state → (s.step op).run.state = .dismissed → op.Ends s.run
  /-- A step that needs an interaction is left by a direct call or by a dismissal, never by a tap or a deadline. -/
  held : ∀ i step, s.run.state = .running i → steps[i]? = some step → step.needsInteraction = true →
    (s.step op).run.state ≠ .running i →
    op.IsDirect s.run ∨ op.Ends s.run ∧ (s.step op).run.state = .dismissed
  /-- A tick leaves a step only when its delay has passed since it was shown. -/
  tick : ∀ i, op = .tick → s.run.state = .running i → (s.step op).run.state ≠ .running i →
    ∃ step d since, steps[i]? = some step ∧ (step.autoAdvance <|> settings.automaticDelay) = some d ∧
      s.shown.getLast? = some (i, since) ∧ since + d ≤ s.now

theorem Timed.lawful (h : Timed r₀ s) (op : Op) : Lawful r₀.steps r₀.settings s op where
  move := step_move h op
  start := step_start h op
  dismissed := step_dismissed h op
  held := by
    intro i step hState hStep hHeld hLeft
    refine step_held h op hState ?_ hLeft
    rw [h.tour.isHeld, Run.isHeld, hStep, Option.any_some, hHeld]
  tick := by
    rintro i rfl hState hLeft
    -- the deadline that has come is the one of the step that is left
    obtain ⟨due, hDue, hCome⟩ := step_tick h (by rwa [hState])
    obtain ⟨j, step, d, since, hRunning, hStep, -, hDelay, hShown, rfl⟩ := (h.due_iff due).mp hDue
    rw [hState] at hRunning
    cases hRunning
    exact ⟨step, d, since, hStep, hDelay, hShown, hCome⟩

theorem opening_ordered (steps : List Step) (settings : Settings) (style : BubbleStyle) (identity : Option String)
    (delegate : Option Delegate) (now : Nanos) :
    Ordered (opening steps settings style identity delegate now).run
      (opening steps settings style identity delegate now) where
  timed := opening_timed ..
  tally := ⟨rfl, rfl⟩
  shown := rfl

/--
**A run's course.** Whatever mix of keys, clicks, deadlines, contents and direct calls drives a run, at any readings
of the clock: its steps appear in order without gaps or repetitions, it completes at exactly the accepted advance
whose number is that of its steps, and no operation does more to it than `Lawful` says.
-/
theorem session_course (steps : List Step) (settings : Settings) (style : BubbleStyle)
    (identity : Option String) (delegate : Option Delegate) (now : Nanos) (ops : List Op) :
    Course steps.length ((opening steps settings style identity delegate now).after ops) ∧
      ∀ op, Lawful steps settings ((opening steps settings style identity delegate now).after ops) op := by
  have h := after_induction step_ordered (opening_ordered steps settings style identity delegate now) ops
  exact ⟨h.course, fun op => h.timed.lawful op⟩

/-- A deadline and a tap leave the held second step alone; the direct call completes the run. -/
example :
    let steps := [.centered default .zero, { Step.centered default .zero with needsInteraction := true }]
    let s := (opening steps { automaticDelay := some 5 } {} none none 0).after
      [.start, .pass 5, .tick, .pass 9, .tick, .advance .tap, .step]
    s.run.state = .completed ∧ s.shown = [(0, 0), (1, 5)] ∧ s.accepted = 2 := by decide

end Session

end GuidedTour
