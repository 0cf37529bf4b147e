import GuidedTour.Proofs.Run.Demand
import GuidedTour.Run.Drawing

/-!
# What one operation makes of a run

Whatever is asked of a run, it takes one of five turns: it stays where it is, shows its first step, goes on
to the next one, completes, or is dismissed. `Turn` says so with everything each turn changes, and one lemma
for each operation says which turns it may take; later proofs argue by the turn and never open an operation
again.

Main results:

* `advance_turn`, `tick_turn`, `handle_turn`, `start_turn`, `dismiss_turn`, `draw_turn` - the turns of each
  operation.
* `Turn.sameTour` - no turn changes the steps' pace, the settings or the identity.
* `Turn.sound` - every turn keeps `Sound`: a run owns views, a veil and a deadline only while it shows a step.
-/

namespace GuidedTour

open Layout Screen

/-- What of a step decides how it is left: whether it needs an interaction, and its own delay. -/
def Step.pace (s : Step) : Bool × Option Nanos := (s.needsInteraction, s.autoAdvance)

namespace Run

/-! ## Delays and interactions -/

/-- The delay after which the step at an index is left by itself. -/
def delayAt (r : Run) (i : Nat) : Option Nanos := r.steps[i]?.bind r.delayOf

/-- Whether the step at an index is left by an interaction only. -/
def isHeld (r : Run) (i : Nat) : Bool := (r.steps[i]?).any (·.needsInteraction)

theorem delayAt_eq_pace (r : Run) (i : Nat) :
    r.delayAt i = (r.steps.map Step.pace)[i]?.bind fun (held, own) =>
      if held then none else own <|> r.settings.automaticDelay := by
  unfold delayAt
  rw [List.getElem?_map]
  cases r.steps[i]? <;> rfl

theorem isHeld_eq_pace (r : Run) (i : Nat) : r.isHeld i = (r.steps.map Step.pace)[i]?.any (·.1) := by
  unfold isHeld
  rw [List.getElem?_map]
  cases r.steps[i]? <;> rfl

theorem delayAt_eq_some_iff {r : Run} {i : Nat} {d : Nanos} :
    r.delayAt i = some d ↔ ∃ step, r.steps[i]? = some step ∧ step.needsInteraction = false ∧
      (step.autoAdvance <|> r.settings.automaticDelay) = some d := by
  unfold delayAt delayOf
  rw [Option.bind_eq_some_iff]
  refine exists_congr fun step => and_congr_right fun _ => ?_
  cases step.needsInteraction <;> simp

theorem isHeld_of_delayAt {r : Run} {i : Nat} (h : (r.delayAt i).isSome = true) : r.isHeld i = false := by
  obtain ⟨d, hDelay⟩ := Option.isSome_iff_exists.mp h
  obtain ⟨step, hStep, hFree, -⟩ := delayAt_eq_some_iff.mp hDelay
  rw [isHeld, hStep, Option.any_some, hFree]

/-! ## Turns -/

/-- What stays as it is while a run stays where it is. -/
structure SamePlace (r r' : Run) : Prop where
  state    : r'.state = r.state
  due      : r'.due = r.due
  views    : r'.views.isSome = r.views.isSome
  veil     : r'.hasVeil = r.hasVeil
  delegate : r'.delegate = r.delegate

theorem SamePlace.refl (r : Run) : SamePlace r r := ⟨rfl, rfl, rfl, rfl, rfl⟩

/-- What stays as it is during the whole life of a run. -/
structure SameTour (r r' : Run) : Prop where
  pace     : r'.steps.map Step.pace = r.steps.map Step.pace
  settings : r'.settings = r.settings
  identity : r'.identity = r.identity

namespace SameTour

variable {r r' r'' : Run}

theorem refl (r : Run) : SameTour r r := ⟨rfl, rfl, rfl⟩

theorem trans (h : SameTour r r') (h' : SameTour r' r'') : SameTour r r'' :=
  ⟨h'.pace.trans h.pace, h'.settings.trans h.settings, h'.identity.trans h.identity⟩

theorem length (h : SameTour r r') : r'.steps.length = r.steps.length := by
  have := congrArg List.length h.pace
  rwa [List.length_map, List.length_map] at this

theorem delayAt (h : SameTour r r') (i : Nat) : r'.delayAt i = r.delayAt i := by
  rw [delayAt_eq_pace, delayAt_eq_pace, h.pace, h.settings]

theorem isHeld (h : SameTour r r') (i : Nat) : r'.isHeld i = r.isHeld i := by
  rw [isHeld_eq_pace, isHeld_eq_pace, h.pace]

end SameTour

/-- The run with its first step shown. -/
def begun (r : Run) (now : Nanos) : Run :=
  showStep { r with state := .probing, views := some (r.attach now) } 0 now

/-- The run completed by an accepted advance. -/
def finished (r : Run) : Run := { r.teardown .completed with delegate := none }

/-- The run dismissed. -/
def dropped (r : Run) : Run := { r.teardown .dismissed with delegate := none }

/-- What a completion does outside of the run: it is remembered, and the delegate is told. -/
def farewell (r : Run) : List Effect :=
  (r.identity.map Effect.remember).toList ++ (r.delegate.map Effect.notify).toList

/-- What an operation that makes a demand at a reading of the clock makes of a run, answers, and does outside
of the run. A demand may come to nothing; without one the run stays. -/
inductive Turn (now : Nanos) (r : Run) : Option Demand → Run × Transition × List Effect → Prop
  | stay {demand : Option Demand} {r' : Run} {effects : List Effect} (hPlace : SamePlace r r')
      (hTour : SameTour r r') (hQuiet : ∀ e ∈ effects, ∃ w, e = .warn w) :
      Turn now r demand (r', .ignored, effects)
  | start (hState : r.state = .notStarted) (hSteps : 0 < r.steps.length) :
      Turn now r (some .start) (r.begun now, .ignored, [])
  | next {trigger : Trigger} {i : Nat} (hState : r.state = .running i)
      (hLeave : trigger = .explicit ∨ r.isHeld i = false) (hMore : i + 1 < r.steps.length) :
      Turn now r (some (.advance trigger)) (r.showStep (i + 1) now, .stepped (i + 1), [])
  | finish {trigger : Trigger} {i : Nat} (hState : r.state = .running i)
      (hLeave : trigger = .explicit ∨ r.isHeld i = false) (hLast : r.steps.length ≤ i + 1) :
      Turn now r (some (.advance trigger)) (r.finished, .completed, r.farewell)
  | dismiss (hActive : r.isActive = true) : Turn now r (some .dismiss) (r.dropped, .ignored, [])

theorem Turn.idle (now : Nanos) (r : Run) (demand : Option Demand) : Turn now r demand (r, .ignored, []) :=
  .stay (.refl r) (.refl r) fun _ h => absurd h List.not_mem_nil

/-! ## The turns of each operation -/

theorem index?_eq_some_iff {r : Run} {i : Nat} : r.index? = some i ↔ r.state = .running i := by
  unfold index?
  cases r.state <;> simp

theorem complete_eq (r : Run) : r.complete = (r.finished, r.farewell) := by
  simp only [complete, completion, List.foldl_cons, List.foldl_nil, List.nil_append, List.append_nil]
  rfl

/-- An advance that is not refused shows the next step or completes the run. -/
theorem advance_accepted {r : Run} {trigger : Trigger} {now : Nanos} {i : Nat} (hState : r.state = .running i)
    (hLeave : trigger = .explicit ∨ r.isHeld i = false) :
    r.advance trigger now =
      if i + 1 < r.steps.length then (r.showStep (i + 1) now, .stepped (i + 1), [])
      else (r.finished, .completed, r.farewell) := by
  unfold advance
  rw [index?_eq_some_iff.mpr hState]
  -- the guard that refuses an advance is shut out by `hLeave`
  have hOpen : ¬ (trigger ≠ .explicit && (r.steps[i]?).any (·.needsInteraction)) = true := by
    rcases hLeave with rfl | hFree
    · simp
    · rw [isHeld] at hFree
      simp [hFree]
  dsimp only
  rw [if_neg hOpen, complete_eq]
  rfl

theorem advance_refused {r : Run} {trigger : Trigger} {now : Nanos}
    (hStays : ∀ i, r.state = .running i → trigger ≠ .explicit ∧ r.isHeld i = true) :
    r.advance trigger now = (r, .ignored, []) := by
  unfold advance
  cases hIndex : r.index? with
  | none => rfl
  | some i =>
    obtain ⟨hTrigger, hHeld⟩ := hStays i (index?_eq_some_iff.mp hIndex)
    have hShut : (trigger ≠ .explicit && r.isHeld i) = true := by simp [hTrigger, hHeld]
    dsimp only
    exact if_pos hShut

theorem advance_cases (r : Run) (trigger : Trigger) (now : Nanos) :
    r.advance trigger now = (r, .ignored, []) ∨
      ∃ i, r.state = .running i ∧ (trigger = .explicit ∨ r.isHeld i = false) := by
  -- either a step may be left, or there is no step at all or only a held one
  by_cases hLeave : ∃ i, r.state = .running i ∧ (trigger = .explicit ∨ r.isHeld i = false)
  · exact Or.inr hLeave
  · refine Or.inl (advance_refused fun i hState => ?_)
    have hStays := fun h => hLeave ⟨i, hState, h⟩
    exact ⟨fun h => hStays (.inl h), by simpa using fun h => hStays (.inr h)⟩

theorem accepted_turn {r : Run} {trigger : Trigger} {now : Nanos} {i : Nat} (hState : r.state = .running i)
    (hLeave : trigger = .explicit ∨ r.isHeld i = false) :
    Turn now r (some (.advance trigger)) (if i + 1 < r.steps.length then
      (r.showStep (i + 1) now, .stepped (i + 1), []) else (r.finished, .completed, r.farewell)) := by
  by_cases hMore : i + 1 < r.steps.length
  · rw [if_pos hMore]
    exact .next hState hLeave hMore
  · rw [if_neg hMore]
    exact .finish hState hLeave (Nat.le_of_not_lt hMore)

theorem advance_turn (r : Run) (trigger : Trigger) (now : Nanos) :
    Turn now r (some (.advance trigger)) (r.advance trigger now) := by
  rcases advance_cases r trigger now with hRefused | ⟨i, hState, hLeave⟩
  · rw [hRefused]
    exact .idle now r _
  · rw [advance_accepted hState hLeave]
    exact accepted_turn hState hLeave

theorem start_cases (r : Run) (now : Nanos) :
    r.start now = (r, false) ∨
      r.state = .notStarted ∧ 0 < r.steps.length ∧ r.start now = (r.begun now, true) := by
  unfold start
  split
  · exact .inl rfl
  · next hFresh =>
    rw [Bool.or_eq_true, not_or, decide_eq_true_eq, not_not, List.isEmpty_iff] at hFresh
    exact .inr ⟨hFresh.1, List.length_pos_iff.mpr hFresh.2, rfl⟩

theorem start_turn (r : Run) (now : Nanos) : Turn now r (some .start) ((r.start now).1, .ignored, []) := by
  rcases start_cases r now with hRefused | ⟨hState, hSteps, hStarted⟩
  · rw [hRefused]
    exact .idle now r _
  · rw [hStarted]
    exact .start hState hSteps

theorem dismiss_turn (r : Run) (now : Nanos) : Turn now r (some .dismiss) (r.dismiss.1, .ignored, []) := by
  unfold dismiss
  split
  · next hActive => exact .dismiss hActive
  · exact .idle now r _

theorem meet_turn (r : Run) (demand : Option Demand) (now : Nanos) :
    Turn now r demand (r.meet demand now) := by
  unfold meet
  split
  · exact start_turn r now
  · exact advance_turn r _ now
  · exact dismiss_turn r now
  · exact .idle now r _

/-- The answer to an event, as far as it is about going on. -/
def answer (r : Run) (e : Event) (now : Nanos) : Transition := (r.meet (r.demand e) now).2.1

theorem handle_turn (r : Run) (e : Event) (now : Nanos) :
    Turn now r (r.demand e) ((r.handle e now).1, r.answer e now, (r.handle e now).2.2) := by
  obtain ⟨hRun, hEffects⟩ := handle_eq_meet r e now
  rw [hRun, hEffects]
  exact meet_turn r (r.demand e) now

/-! ## Drawing stays in place -/

theorem placeBubble_veil (v : RunViews) (step : Step) (ctx : Context) (now : Nanos) :
    (placeBubble v step ctx now).1.veil = v.veil := by
  unfold placeBubble
  dsimp only
  split
  · rfl
  · split <;> rfl

theorem placeBubble_quiet (v : RunViews) (step : Step) (ctx : Context) (now : Nanos) :
    ∀ e ∈ (placeBubble v step ctx now).2, ∃ w, e = .warn w := by
  unfold placeBubble
  dsimp only
  intro e he
  split at he
  · exact absurd he List.not_mem_nil
  · split at he
    · exact absurd he List.not_mem_nil
    · exact ⟨_, List.mem_singleton.mp he⟩

theorem drawStep_veil (v : RunViews) (settings : Settings) (step : Step) (ctx : Context) (b : Buffer)
    (now : Nanos) : (drawStep v settings step ctx b now).1.veil.isSome = v.veil.isSome := by
  have hPlaced := placeBubble_veil v step ctx now
  unfold drawStep
  dsimp only
  rw [hPlaced]
  cases hVeil : v.veil with
  | none => exact congrArg Option.isSome (hPlaced.trans hVeil)
  | some veil => rfl

theorem drawStep_effects (v : RunViews) (settings : Settings) (step : Step) (ctx : Context) (b : Buffer)
    (now : Nanos) : (drawStep v settings step ctx b now).2.2 = (placeBubble v step ctx now).2 := rfl

theorem draw_turn (r : Run) (area : Rect) (b : Buffer) (anchors : Anchors) (now : Nanos) :
    Turn now r none ((r.draw area b anchors now).1, .ignored, (r.draw area b anchors now).2.2) := by
  unfold draw
  split
  · next views step hViews hStep =>
    refine .stay ⟨rfl, rfl, ?_, ?_, rfl⟩ ⟨rfl, rfl, rfl⟩ ?_
    · rw [hViews]
      rfl
    · simp only [hasVeil, hViews, Option.any_some]
      exact drawStep_veil ..
    · dsimp only
      rw [drawStep_effects]
      exact placeBubble_quiet _ _ _ _
  · exact .idle now r _

/-! ## What every turn keeps -/

theorem Turn.sameTour {now : Nanos} {r : Run} {demand : Option Demand} {out : Run × Transition × List Effect}
    (h : Turn now r demand out) : SameTour r out.1 := by
  cases h with
  | stay hPlace hTour hQuiet => exact hTour
  | start => exact ⟨rfl, rfl, rfl⟩
  | next => exact ⟨rfl, rfl, rfl⟩
  | finish => exact ⟨rfl, rfl, rfl⟩
  | dismiss => exact ⟨rfl, rfl, rfl⟩

/-- A run owns its views, its veil and a deadline only while it shows one of its steps, and a deadline only
at a step with a delay. -/
structure Sound (r : Run) : Prop where
  not_probing : r.state ≠ .probing
  index_lt    : ∀ i, r.state = .running i → i < r.steps.length
  views       : r.views.isSome = r.isActive
  veil        : r.hasVeil = (r.isActive && r.settings.presentationMode.dimming.isSome)
  due         : r.due.isSome = true → ∃ i, r.state = .running i ∧ (r.delayAt i).isSome = true

namespace Sound

variable {r : Run}

theorem fresh (hState : r.state = .notStarted) (hDue : r.due = none) (hViews : r.views = none) : Sound r where
  not_probing := by rw [hState]; decide
  index_lt := by intro i h; rw [hState] at h; cases h
  views := by rw [hViews, isActive, hState]; rfl
  veil := by rw [hasVeil, hViews, isActive, hState]; rfl
  due := by rw [hDue]; intro h; cases h

/-- A sound run is on the screen exactly while it shows a step. -/
theorem isActive_iff (h : Sound r) : r.isActive = true ↔ ∃ i, r.state = .running i := by
  have hProbing := h.not_probing
  unfold isActive
  cases hState : r.state with
  | probing => exact absurd hState hProbing
  | running i => simp [RunState.isActive]
  | _ => simp [RunState.isActive]

end Sound

theorem hasVeil_showStep (r : Run) (i : Nat) (now : Nanos) : (r.showStep i now).hasVeil = r.hasVeil := by
  unfold showStep hasVeil
  cases r.views <;> rfl

theorem due_showStep (r : Run) (i : Nat) (now : Nanos) :
    (r.showStep i now).due = (r.delayAt i).map (now + ·) := rfl

theorem Sound.showStep {r : Run} {i : Nat} (now : Nanos) (hIndex : i < r.steps.length)
    (hViews : r.views.isSome = true) (hVeil : r.hasVeil = r.settings.presentationMode.dimming.isSome) :
    Sound (r.showStep i now) where
  not_probing := by intro h; cases h
  index_lt := by intro j h; cases h; exact hIndex
  views := by
    show (r.views.map _).isSome = true
    rw [Option.isSome_map]
    exact hViews
  veil := by
    rw [hasVeil_showStep, hVeil]
    rfl
  due := by
    intro h
    refine ⟨i, rfl, ?_⟩
    rw [due_showStep, Option.isSome_map] at h
    exact h

theorem Sound.teardown (r : Run) {state : RunState} (delegate : Option Delegate)
    (hActive : state.isActive = false) : Sound { r.teardown state with delegate := delegate } where
  not_probing := by rintro rfl; cases hActive
  index_lt := by rintro i rfl; cases hActive
  views := hActive.symm
  veil := by
    show false = (state.isActive && _)
    rw [hActive]
    rfl
  due := by intro h; cases h

theorem Turn.sound {now : Nanos} {r : Run} {demand : Option Demand} {out : Run × Transition × List Effect}
    (h : Turn now r demand out) (hSound : Sound r) : Sound out.1 := by
  cases h with
  | @stay _ r' _ hPlace hTour hQuiet =>
    -- state, views, veil and deadline are as before, and so are the delays they are compared with
    have hActive : r'.isActive = r.isActive := by rw [isActive, hPlace.state]; rfl
    refine ⟨?_, ?_, ?_, ?_, ?_⟩
    · rw [hPlace.state]
      exact hSound.not_probing
    · intro i hState
      rw [hTour.length]
      exact hSound.index_lt i (hPlace.state ▸ hState)
    · rw [hPlace.views, hActive, hSound.views]
    · rw [hPlace.veil, hActive, hTour.settings, hSound.veil]
    · rw [hPlace.due, hPlace.state]
      intro hDue
      obtain ⟨i, hState, hDelay⟩ := hSound.due hDue
      exact ⟨i, hState, by rwa [hTour.delayAt]⟩
  | start hState hSteps =>
    refine Sound.showStep now hSteps rfl ?_
    show (r.settings.presentationMode.dimming.map _).isSome = _
    rw [Option.isSome_map]
  | next hState hLeave hMore =>
    have hActive : r.isActive = true := hSound.isActive_iff.mpr ⟨_, hState⟩
    refine Sound.showStep now hMore ?_ ?_
    · rw [hSound.views, hActive]
    · rw [hSound.veil, hActive, Bool.true_and]
  | finish => exact .teardown r none rfl
  | dismiss => exact .teardown r none rfl

/-- What a tick demands: an advance once the deadline has come. -/
def tickDemand (r : Run) (now : Nanos) : Option Demand :=
  if r.due.any (· ≤ now) then some (.advance .timer) else none

/-- The deadline of a sound run belongs to a step that it may leave, so a tick that drops the deadline is never
refused. -/
theorem tick_turn {r : Run} (now : Nanos) (hSound : Sound r) :
    Turn now r (r.tickDemand now) (r.tick now) := by
  unfold tick tickDemand
  cases hDue : r.due with
  | none => exact .idle now r _
  | some due =>
    rw [Option.any_some]
    dsimp only
    by_cases hPassed : due ≤ now
    · -- the step with the deadline is not held, so the advance is accepted
      obtain ⟨i, hState, hDelay⟩ := hSound.due (by rw [hDue]; rfl)
      have hLeave := isHeld_of_delayAt hDelay
      have hAdvance : ({ r with due := none } : Run).advance .timer now = _ :=
        advance_accepted hState (.inr hLeave)
      rw [if_pos hPassed, if_pos (decide_eq_true hPassed), hAdvance]
      exact accepted_turn hState (.inr hLeave)
    · rw [if_neg hPassed]
      exact .idle now r _

end Run

end GuidedTour
