import GuidedTour.Proofs.Run.Session

/-!
# The life of a run

The log of a run is the list of the stages it went through since it was started, each with what was done outside of
the run then. Most operations are one stage; the one that completes a run is three. Whatever follows the start, a
log takes one of three forms, `Ending`, and from them it can be read off how often a run is remembered and its
delegate told.

Main results:

* `passage_carries` - the stages of an operation lead to the run it answers, and do what it does, in order.
* `Life.ending` - a log is under way, ended by a dismissal, or ended by one completion.
* `Life.finale` - a run is remembered once and its delegate told once if it is completed; otherwise neither happens.
-/

namespace GuidedTour

/-- The identity that an effect remembers. -/
def Effect.remembered? : Effect → Option String
  | .remember identity => some identity
  | _ => none

/-- The delegate that an effect tells. -/
def Effect.told? : Effect → Option Delegate
  | .notify d => some d
  | _ => none

namespace Run

/-! ## Logs -/

/-- What was remembered during some stages. -/
def written (log : List Stage) : List String := (log.flatMap (·.effects)).filterMap Effect.remembered?

/-- Who was told during some stages. -/
def told (log : List Stage) : List Delegate := (log.flatMap (·.effects)).filterMap Effect.told?

/-- Whether the run was completed during some stages. -/
def reached (log : List Stage) : Bool := log.any fun stage => decide (stage.run.state = .completed)

theorem reached_eq_true_iff {log : List Stage} :
    reached log = true ↔ ∃ stage ∈ log, stage.run.state = .completed := by
  rw [reached, List.any_eq_true]
  simp only [decide_eq_true_eq]

theorem reached_eq_false_iff {log : List Stage} :
    reached log = false ↔ ∀ stage ∈ log, stage.run.state ≠ .completed := by
  rw [← Bool.not_eq_true, reached_eq_true_iff]
  push Not
  rfl

/-- Nothing but warnings comes out of a stage. -/
def Stage.IsQuiet (stage : Stage) : Prop := ∀ e ∈ stage.effects, ∃ w, e = .warn w

theorem Stage.isQuiet_nil (r : Run) : Stage.IsQuiet ⟨r, []⟩ := fun _ h => absurd h List.not_mem_nil

section Outcomes

variable {β : Type} {f : Effect → Option β}

/-- What some stages and then more of them come to, by whatever is looked for among their effects. -/
theorem outcome_append (log more : List Stage) :
    ((log ++ more).flatMap (·.effects)).filterMap f =
      (log.flatMap (·.effects)).filterMap f ++ (more.flatMap (·.effects)).filterMap f := by
  rw [List.flatMap_append, List.filterMap_append]

theorem outcome_quiet (hWarn : ∀ w, f (.warn w) = none) {log : List Stage}
    (hQuiet : ∀ stage ∈ log, stage.IsQuiet) : (log.flatMap (·.effects)).filterMap f = [] := by
  refine List.filterMap_eq_nil_iff.mpr fun e he => ?_
  obtain ⟨stage, hStage, hEffect⟩ := List.mem_flatMap.mp he
  obtain ⟨w, rfl⟩ := hQuiet stage hStage e hEffect
  exact hWarn w

end Outcomes

theorem written_append (log more : List Stage) : written (log ++ more) = written log ++ written more :=
  outcome_append log more

theorem told_append (log more : List Stage) : told (log ++ more) = told log ++ told more :=
  outcome_append log more

theorem written_quiet {log : List Stage} (hQuiet : ∀ stage ∈ log, stage.IsQuiet) : written log = [] :=
  outcome_quiet (fun _ => rfl) hQuiet

theorem told_quiet {log : List Stage} (hQuiet : ∀ stage ∈ log, stage.IsQuiet) : told log = [] :=
  outcome_quiet (fun _ => rfl) hQuiet

/-! ## The stages of an operation -/

/-- The stages that an operation with this outcome takes a run through: those of a completion if it completes the
run, and otherwise the outcome itself. -/
def passage (r : Run) (out : Run × Transition × List Effect) : List Stage :=
  if out.1.state = .completed ∧ r.state ≠ .completed then ({ r with due := none } : Run).completion
  else [⟨out.1, out.2.2⟩]

theorem passage_single {r : Run} {out : Run × Transition × List Effect}
    (hSingle : out.1.state = .completed → r.state = .completed) : r.passage out = [⟨out.1, out.2.2⟩] := by
  unfold passage
  rw [if_neg]
  rintro ⟨hEnd, hBefore⟩
  exact hBefore (hSingle hEnd)

theorem passage_finish {r : Run} {i : Nat} (hState : r.state = .running i) (effects : List Effect) :
    r.passage (r.finished, .completed, effects) = ({ r with due := none } : Run).completion := by
  unfold passage
  rw [if_pos]
  exact ⟨rfl, by rw [hState]; exact RunState.noConfusion⟩

theorem passage_carries {now : Nanos} {r : Run} {demand : Option Demand}
    {out : Run × Transition × List Effect} (h : Turn now r demand out) :
    (r.passage out).getLast?.map (·.run) = some out.1 ∧ (r.passage out).flatMap (·.effects) = out.2.2 := by
  cases h with
  | stay hPlace =>
    rw [passage_single fun hEnd => hPlace.state ▸ hEnd]
    exact ⟨rfl, List.append_nil _⟩
  | start =>
    rw [passage_single RunState.noConfusion]
    exact ⟨rfl, rfl⟩
  | next =>
    rw [passage_single RunState.noConfusion]
    exact ⟨rfl, rfl⟩
  | finish hState =>
    rw [passage_finish hState]
    refine ⟨rfl, ?_⟩
    rw [completion]
    simp only [List.flatMap_cons, List.flatMap_nil, List.append_nil, List.nil_append]
    rfl
  | dismiss =>
    rw [passage_single RunState.noConfusion]
    exact ⟨rfl, rfl⟩

/-- A run that has ended stays in place, and nothing but warnings comes out of it. -/
theorem Turn.of_ended {now : Nanos} {r : Run} {demand : Option Demand} {out : Run × Transition × List Effect}
    (h : Turn now r demand out) (hEnded : r.state = .completed ∨ r.state = .dismissed) :
    SamePlace r out.1 ∧ Stage.IsQuiet ⟨out.1, out.2.2⟩ := by
  -- every other turn needs a state that is neither of the two
  have hRunning : ∀ {i}, r.state ≠ .running i := by
    intro i hState
    rw [hState] at hEnded
    rcases hEnded with h | h <;> cases h
  cases h with
  | stay hPlace hTour hQuiet => exact ⟨hPlace, hQuiet⟩
  | start hState =>
    rw [hState] at hEnded
    rcases hEnded with h | h <;> cases h
  | next hState => exact absurd hState hRunning
  | finish hState => exact absurd hState hRunning
  | dismiss hActive =>
    rw [isActive] at hActive
    rcases hEnded with h | h <;> rw [h] at hActive <;> cases hActive

/-! ## Lives -/

/-- The log of a run since it was shown first, and the run as it is now. -/
inductive Life (r₀ : Run) : List Stage → Run → Prop
  | begun : Life r₀ [⟨r₀, []⟩] r₀
  | turn {log : List Stage} {r : Run} (op : Op) (now : Nanos) (h : Life r₀ log r) :
      Life r₀ (log ++ r.passage (r.perform op now)) (r.perform op now).1

/-- The forms that the log of a run has. -/
inductive Ending (r₀ : Run) : List Stage → Run → Prop
  /-- The run shows its steps, and nothing has come out of it but warnings. -/
  | underway {log : List Stage} {r : Run} (hActive : ∃ i, r.state = .running i) (hDelegate : r.delegate = r₀.delegate)
      (hLog : ∀ stage ∈ log, stage.IsQuiet ∧ ∃ i, stage.run.state = .running i) : Ending r₀ log r
  /-- The run was dismissed, and nothing ever came out of it but warnings. -/
  | dismissed {log : List Stage} {r : Run} (hState : r.state = .dismissed)
      (hLog : ∀ stage ∈ log, stage.IsQuiet ∧ stage.run.state ≠ .completed) : Ending r₀ log r
  /-- The run was completed while it showed a step, and nothing but warnings came out of it before and after. -/
  | completed {before after : List Stage} {last r : Run} (hState : r.state = .completed)
      (hViews : last.views.isSome = true) (hIdentity : last.identity = r₀.identity)
      (hDelegate : last.delegate = r₀.delegate)
      (hBefore : ∀ stage ∈ before, stage.IsQuiet ∧ ∃ i, stage.run.state = .running i)
      (hAfter : ∀ stage ∈ after, stage.IsQuiet ∧ stage.run.state = .completed) :
      Ending r₀ (before ++ ({ last with due := none } : Run).completion ++ after) r

theorem forall_mem_concat {P : Stage → Prop} {log : List Stage} {stage : Stage} (hLog : ∀ s ∈ log, P s)
    (hStage : P stage) : ∀ s ∈ log ++ [stage], P s := by
  intro s hs
  rcases List.mem_append.mp hs with hOld | hNew
  · exact hLog s hOld
  · rw [List.mem_singleton.mp hNew]
    exact hStage

theorem Ending.turn {r₀ r : Run} {log : List Stage} {now : Nanos} {demand : Option Demand}
    {out : Run × Transition × List Effect} (h : Ending r₀ log r) (hSound : Sound r) (hTour : SameTour r₀ r)
    (hTurn : Turn now r demand out) : Ending r₀ (log ++ r.passage out) out.1 := by
  -- only a log under way can grow into another form; an ended run stays in place
  cases h with
  | underway hActive hDelegate hLog =>
    cases hTurn with
    | stay hPlace _ hQuiet =>
      rw [passage_single fun hEnd => hPlace.state ▸ hEnd]
      obtain ⟨i, hState⟩ := hActive
      have hRunning := hPlace.state.trans hState
      exact .underway ⟨i, hRunning⟩ (hPlace.delegate.trans hDelegate)
        (forall_mem_concat hLog ⟨hQuiet, i, hRunning⟩)
    | start hState =>
      obtain ⟨i, hRunning⟩ := hActive
      rw [hState] at hRunning
      cases hRunning
    | next hState =>
      rw [passage_single RunState.noConfusion]
      exact .underway ⟨_, rfl⟩ hDelegate (forall_mem_concat hLog ⟨Stage.isQuiet_nil _, _, rfl⟩)
    | finish hState =>
      -- the completion begins with a sound run at a step, which still owns its views
      have hViews : r.views.isSome = true := by rw [hSound.views, hSound.isActive_iff.mpr ⟨_, hState⟩]
      have hEnd : Ending r₀ (log ++ ({ r with due := none } : Run).completion ++ []) r.finished :=
        .completed rfl hViews hTour.identity hDelegate hLog fun _ h => absurd h List.not_mem_nil
      rw [passage_finish hState]
      rwa [List.append_nil] at hEnd
    | dismiss =>
      rw [passage_single RunState.noConfusion]
      refine .dismissed rfl (forall_mem_concat (fun stage hStage => ?_) ⟨Stage.isQuiet_nil _, RunState.noConfusion⟩)
      obtain ⟨hQuiet, i, hState⟩ := hLog stage hStage
      exact ⟨hQuiet, by rw [hState]; exact RunState.noConfusion⟩
  | dismissed hState hLog =>
    obtain ⟨hPlace, hQuiet⟩ := hTurn.of_ended (.inr hState)
    have hStays := hPlace.state.trans hState
    rw [passage_single fun hEnd => hPlace.state ▸ hEnd]
    exact .dismissed hStays (forall_mem_concat hLog ⟨hQuiet, by rw [hStays]; exact RunState.noConfusion⟩)
  | completed hState hViews hIdentity hDelegate hBefore hAfter =>
    obtain ⟨hPlace, hQuiet⟩ := hTurn.of_ended (.inl hState)
    have hStays := hPlace.state.trans hState
    rw [passage_single fun hEnd => hPlace.state ▸ hEnd, List.append_assoc]
    exact .completed hStays hViews hIdentity hDelegate hBefore (forall_mem_concat hAfter ⟨hQuiet, hStays⟩)

theorem Life.ending {r₀ r : Run} {log : List Stage} (h : Life r₀ log r) (hSound : Sound r₀)
    (hShown : ∃ i, r₀.state = .running i) : Ending r₀ log r ∧ Sound r ∧ SameTour r₀ r := by
  -- induction on the life; soundness and the tour are what lets the next operation take a turn
  induction h with
  | begun =>
    refine ⟨.underway hShown rfl fun stage hStage => ?_, hSound, .refl r₀⟩
    rw [List.mem_singleton.mp hStage]
    exact ⟨Stage.isQuiet_nil r₀, hShown⟩
  | turn op now _ ih =>
    obtain ⟨hEnding, hNow, hTour⟩ := ih
    have hTurn := perform_turn op now hNow
    exact ⟨hEnding.turn hNow hTour hTurn, hTurn.sound hNow, hTour.trans hTurn.sameTour⟩

/-! ## How often a run is remembered and its delegate told -/

/-- What the log of a run with this identity and this delegate says. -/
structure Finale (identity : String) (delegate : Option Delegate) (log : List Stage) : Prop where
  /-- The run is remembered once if it is completed, and never otherwise. -/
  written : written log = if reached log then [identity] else []
  /-- Its delegate is told once if it is completed, and never otherwise. -/
  told : told log = if reached log then delegate.toList else []
  /-- The run is remembered while it still owns its views; then they and the deadline go; then its delegate is
  told. Nothing else but warnings comes out of it. -/
  order : reached log = true → ∃ before remembered gone informed after,
    log = before ++ [remembered, gone, informed] ++ after ∧
    (remembered.run.views.isSome = true ∧ remembered.effects = [.remember identity]) ∧
    (gone.run.views = none ∧ gone.run.due = none ∧ gone.effects = []) ∧
    (informed.run.views = none ∧ informed.run.due = none ∧
      informed.effects = (delegate.map Effect.notify).toList) ∧
    ∀ stage ∈ before ++ after, stage.IsQuiet
  /-- A run that was dismissed is never completed. -/
  dismissed : (∃ stage ∈ log, stage.run.state = .dismissed) → reached log = false

theorem Finale.of_quiet {identity : String} {delegate : Option Delegate} {log : List Stage}
    (hLog : ∀ stage ∈ log, stage.IsQuiet ∧ stage.run.state ≠ .completed) : Finale identity delegate log := by
  have hNever : reached log = false := reached_eq_false_iff.mpr fun stage hStage => (hLog stage hStage).2
  have hQuiet : ∀ stage ∈ log, stage.IsQuiet := fun stage hStage => (hLog stage hStage).1
  refine ⟨?_, ?_, ?_, fun _ => hNever⟩
  · rw [hNever, written_quiet hQuiet]
    rfl
  · rw [hNever, told_quiet hQuiet]
    rfl
  · rw [hNever]
    intro h
    cases h

theorem written_completion (r : Run) : Run.written r.completion = r.identity.toList := by
  unfold completion Run.written
  cases r.identity <;> cases r.delegate <;> rfl

theorem told_completion (r : Run) : Run.told r.completion = r.delegate.toList := by
  unfold completion Run.told
  cases r.identity <;> cases r.delegate <;> rfl

theorem reached_completion (before after : List Stage) (r : Run) :
    reached (before ++ r.completion ++ after) = true := by
  refine reached_eq_true_iff.mpr ⟨⟨r.teardown .completed, []⟩, ?_, rfl⟩
  simp [completion]

theorem Finale.of_completion {before after : List Stage} {r : Run} {identity : String}
    (hViews : r.views.isSome = true) (hIdentity : r.identity = some identity)
    (hBefore : ∀ stage ∈ before, stage.IsQuiet ∧ stage.run.state ≠ .dismissed)
    (hAfter : ∀ stage ∈ after, stage.IsQuiet ∧ stage.run.state ≠ .dismissed) :
    Finale identity r.delegate (before ++ r.completion ++ after) := by
  have hEarly : ∀ stage ∈ before, stage.IsQuiet := fun stage hStage => (hBefore stage hStage).1
  have hLate : ∀ stage ∈ after, stage.IsQuiet := fun stage hStage => (hAfter stage hStage).1
  have hReached := reached_completion before after r
  refine ⟨?_, ?_, fun _ => ?_, ?_⟩
  · rw [hReached, written_append, written_append, written_quiet hEarly, written_quiet hLate, written_completion,
      hIdentity]
    rfl
  · rw [hReached, told_append, told_append, told_quiet hEarly, told_quiet hLate, told_completion, List.nil_append,
      List.append_nil]
    rfl
  · refine ⟨before, _, _, _, after, rfl, ⟨hViews, ?_⟩, ⟨rfl, rfl, rfl⟩, ⟨rfl, rfl, rfl⟩, ?_⟩
    · show (r.identity.map Effect.remember).toList = [.remember identity]
      rw [hIdentity]
      rfl
    · intro stage hStage
      exact (List.mem_append.mp hStage).elim (hEarly stage) (hLate stage)
  · -- no stage shows a dismissed run, the three of the completion included
    rintro ⟨stage, hStage, hGone⟩
    exfalso
    rcases List.mem_append.mp hStage with hFirst | hThen
    · rcases List.mem_append.mp hFirst with hRunning | hCompletion
      · exact (hBefore stage hRunning).2 hGone
      · simp only [completion, List.mem_cons, List.not_mem_nil, or_false] at hCompletion
        rcases hCompletion with rfl | rfl | rfl <;> cases hGone
    · exact (hAfter stage hThen).2 hGone

theorem Ending.finale {r₀ r : Run} {log : List Stage} {identity : String} (h : Ending r₀ log r)
    (hIdentity : r₀.identity = some identity) : Finale identity r₀.delegate log := by
  cases h with
  | underway hActive hDelegate hLog =>
    refine .of_quiet fun stage hStage => ?_
    obtain ⟨hQuiet, i, hState⟩ := hLog stage hStage
    exact ⟨hQuiet, by rw [hState]; exact RunState.noConfusion⟩
  | dismissed hState hLog => exact .of_quiet hLog
  | @completed before after last _ hState hViews hSame hDelegate hBefore hAfter =>
    have hEarly : ∀ stage ∈ before, stage.IsQuiet ∧ stage.run.state ≠ .dismissed := by
      intro stage hStage
      obtain ⟨hQuiet, i, hRunning⟩ := hBefore stage hStage
      exact ⟨hQuiet, by rw [hRunning]; exact RunState.noConfusion⟩
    have hLate : ∀ stage ∈ after, stage.IsQuiet ∧ stage.run.state ≠ .dismissed := by
      intro stage hStage
      obtain ⟨hQuiet, hCompleted⟩ := hAfter stage hStage
      exact ⟨hQuiet, by rw [hCompleted]; exact RunState.noConfusion⟩
    rw [← hDelegate]
    exact Finale.of_completion (r := { last with due := none }) hViews (hSame.trans hIdentity) hEarly hLate

theorem Life.finale {r₀ r : Run} {log : List Stage} {identity : String} (h : Life r₀ log r) (hSound : Sound r₀)
    (hShown : ∃ i, r₀.state = .running i) (hIdentity : r₀.identity = some identity) :
    Finale identity r₀.delegate log :=
  (h.ending hSound hShown).1.finale hIdentity

end Run

end GuidedTour
