import GuidedTour.Proofs.Host.Custody
import GuidedTour.Proofs.Host.History

/-!
# Who may start, and what handles reach

The journal of a history says how far every run is that a host ever launched. At most one of them shows a step, and that
one is held by the host; so the host need not look further than at the run it holds to know whether another one may
start.

Main results:

* `step_alone` - no operation lets go of a run that is on the screen.
* `remembers_after` - a completed walkthrough stays remembered until others clear its flag.
* `history_admission` - who may start, what handles reach, and what is remembered, after any operations.
-/

namespace GuidedTour

open Layout Screen Completion Storage

/-! ## Completions -/

theorem Run.passage_remembers {r : Run} {now : Nanos} {demand : Option Demand} {out : Run × Transition × List Effect}
    {stage : Run.Stage} {identity : String} (hTurn : Run.Turn now r demand out) (hBefore : r.state ≠ .completed)
    (hStage : stage ∈ r.passage out) (hEnd : stage.run.state = .completed)
    (hIdentity : stage.run.identity = some identity) : out.2.2.filterMap Effect.remembered? = [identity] := by
  cases hTurn with
  | stay hPlace =>
    rw [Run.passage_single fun hSame => hPlace.state ▸ hSame, List.mem_singleton] at hStage
    subst hStage
    exact absurd (hPlace.state.symm.trans hEnd) hBefore
  | start =>
    rw [Run.passage_single RunState.noConfusion, List.mem_singleton] at hStage
    subst hStage
    cases hEnd
  | next =>
    rw [Run.passage_single RunState.noConfusion, List.mem_singleton] at hStage
    subst hStage
    cases hEnd
  | finish hState =>
    rw [Run.passage_finish hState] at hStage
    -- all three stages of a completion bear the identity of the run
    have hSame : stage.run.identity = r.identity := by
      simp only [Run.completion, List.mem_cons, List.not_mem_nil, or_false] at hStage
      rcases hStage with rfl | rfl | rfl <;> rfl
    show r.farewell.filterMap _ = _
    rw [Run.farewell, ← hSame, hIdentity]
    cases r.delegate <;> rfl
  | dismiss =>
    rw [Run.passage_single RunState.noConfusion, List.mem_singleton] at hStage
    subst hStage
    cases hEnd

namespace History

open Host (Op)

/-! ## How far the runs are -/

/-- A run as it was entered last. -/
def latest (s : History) (id : RunId) : Option Run := (s.log id).getLast?.map (·.run)

/-- Whether a run shows a step. -/
def IsShown (s : History) (id : RunId) : Prop := ∃ run i, s.latest id = some run ∧ run.state = .running i

section Latest

variable {s : History} {id : RunId} {run : Run}

theorem Kept.latest (h : Kept s) (hActive : s.host.active = some (id, run)) : s.latest id = some run := by
  obtain ⟨first, hStory⟩ := h.story hActive
  exact (life_ends hStory.life hStory.sound hStory.shown).2

theorem Kept.issued (h : Kept s) (hLatest : s.latest id = some run) : id < s.host.runCount := by
  by_contra hLate
  rw [History.latest, h.untold id (Nat.le_of_not_lt hLate)] at hLatest
  cases hLatest

theorem Kept.latest_sound (h : Kept s) (hLatest : s.latest id = some run) : run.Sound := by
  obtain ⟨first, last, hStory, -⟩ := h.told id (h.issued hLatest)
  have hLast := (life_ends hStory.life hStory.sound hStory.shown).2
  obtain rfl := Option.some.inj (hLatest.symm.trans hLast)
  exact (hStory.life.ending hStory.sound hStory.shown).2.1

theorem Kept.shown_of_active (h : Kept s) (hLatest : s.latest id = some run) (hShown : run.isActive = true) :
    s.IsShown id := by
  obtain ⟨i, hState⟩ := (h.latest_sound hLatest).isActive_iff.mp hShown
  exact ⟨run, i, hLatest, hState⟩

/-- The entries of an operation that reaches the run of the host are all under the number of that run. -/
theorem log_step_run {op : Op} {now : Nanos} {runOp : Run.Op} {this : RunId} (hOp : op.onRun s.host now = some runOp)
    (hActive : s.host.active = some (this, run)) :
    (s.step (op, now)).log id = s.log id ++ if this = id then run.passage (run.perform runOp now) else [] := by
  rw [log_step]
  dsimp only
  rw [Host.stages_run hOp hActive, filter_stages]

theorem launched_fresh {op : Op} {now : Nanos} (hId : id < s.host.runCount) :
    ∀ launched, op.launched s.host now = some launched → launched.1 ≠ id := by
  intro launched hSome
  cases op with
  | start request =>
    rcases Host.perform_start_cases s.host request now with ⟨hNone, -⟩ | ⟨provider, run, -, hThis, -⟩
    · rw [hNone] at hSome
      cases hSome
    · rw [hThis] at hSome
      cases hSome
      exact Nat.ne_of_gt hId
  | _ => cases hSome

/-- Any other operation enters at most the launch of a new run. -/
theorem log_step_absent {op : Op} {now : Nanos} (hAbsent : s.host.active = none ∨ op.onRun s.host now = none)
    (hFresh : ∀ launched, op.launched s.host now = some launched → launched.1 ≠ id) :
    (s.step (op, now)).log id = s.log id := by
  rw [log_step]
  dsimp only
  rw [Host.stages_absent hAbsent]
  cases hNew : op.launched s.host now with
  | none => exact List.append_nil _
  | some launched => simp [hFresh launched hNew]

/-- An operation leaves the log of a run that the host does not hold. -/
theorem log_step_other {op : Op} {now : Nanos} (hOther : ∀ run, s.host.active ≠ some (id, run))
    (hFresh : ∀ launched, op.launched s.host now = some launched → launched.1 ≠ id) :
    (s.step (op, now)).log id = s.log id := by
  cases hActive : s.host.active with
  | none => exact log_step_absent (.inl hActive) hFresh
  | some held =>
    cases hOp : op.onRun s.host now with
    | none => exact log_step_absent (.inr hOp) hFresh
    | some runOp =>
      have hNot : held.1 ≠ id := fun hSame => hOther held.2 (by rw [hActive, ← hSame])
      rw [log_step_run hOp hActive, if_neg hNot, List.append_nil]

theorem latest_held (h : Kept s) (op : Op) (now : Nanos) (hActive : s.host.active = some (id, run)) :
    (s.step (op, now)).latest id = some (op.outcome s.host now run) := by
  rw [latest, Op.outcome]
  cases hOp : op.onRun s.host now with
  | none =>
    rw [log_step_absent (.inr hOp) (launched_fresh (h.held id run hActive))]
    exact h.latest hActive
  | some runOp =>
    rw [log_step_run hOp hActive, if_pos rfl, List.getLast?_append]
    have hTurn := Run.perform_turn runOp now (h.sound hActive)
    obtain ⟨stage, hLast, hRun⟩ := Option.map_eq_some_iff.mp (Run.passage_carries hTurn).1
    rw [hLast]
    exact congrArg some hRun

end Latest

/-! ## At most one on the screen -/

/-- A run on the screen is held by the host. -/
def Alone (s : History) : Prop :=
  ∀ id run, s.latest id = some run → run.isActive = true → s.host.active = some (id, run)

theorem step_alone {s : History} (h : Kept s) (hAlone : Alone s) (moment : Op × Nanos) : Alone (s.step moment) := by
  obtain ⟨op, now⟩ := moment
  have hNext := step_kept s (op, now) h
  intro id run hLatest hShown
  by_cases hId : id < s.host.runCount
  · by_cases hHeld : ∃ before, s.host.active = some (id, before)
    · -- it was held before, and an operation that leaves it on the screen leaves it with the host
      obtain ⟨before, hActive⟩ := hHeld
      have hOutcome := Option.some.inj ((latest_held h op now hActive).symm.trans hLatest)
      subst hOutcome
      exact Host.held_while_active hActive hShown
    · -- it was not held before, so it was not on the screen then
      rw [latest, log_step_other (fun before hActive => hHeld ⟨before, hActive⟩) (launched_fresh hId)] at hLatest
      exact absurd ⟨run, hAlone id run hLatest hShown⟩ hHeld
  · -- it has only just been launched
    have hIssued := hNext.issued hLatest
    have hProgress := Host.perform_progress s.host op now
    generalize s.host.stages op now = stages at hProgress
    have hHost : (s.step (op, now)).host = (s.host.perform op now).1 := rfl
    rw [← hHost] at hProgress
    cases hProgress with
    | idle hActive hCount => exact absurd (hCount ▸ hIssued) hId
    | launch hLaunched =>
      rw [hLaunched.runCount] at hIssued
      obtain rfl : id = s.host.runCount := Nat.le_antisymm (Nat.le_of_lt_succ hIssued) (Nat.le_of_not_lt hId)
      obtain rfl := Option.some.inj ((hNext.latest hLaunched.active).symm.trans hLatest)
      exact hLaunched.active
    | run runOp hBefore hAfter hCount => exact absurd (hCount ▸ hIssued) hId

theorem Alone.unique {s : History} (hAlone : Alone s) {id other : RunId} {run run' : Run}
    (hRun : s.latest id = some run) (hShown : run.isActive = true) (hOther : s.latest other = some run')
    (hShown' : run'.isActive = true) : id = other := by
  have hBoth := (hAlone id run hRun hShown).symm.trans (hAlone other run' hOther hShown')
  exact congrArg Prod.fst (Option.some.inj hBoth)

theorem isActive_eq_false_iff {s : History} (h : Kept s) (hAlone : Alone s) :
    s.host.isActive = false ↔ ∀ id, ¬ s.IsShown id := by
  constructor
  · -- a run that shows a step is the one that the host holds
    rintro hOff id ⟨run, i, hLatest, hState⟩
    have hShown : run.isActive = true := by rw [Run.isActive, hState]; rfl
    rw [Host.isActive, hAlone id run hLatest hShown, Option.any_some, hShown] at hOff
    cases hOff
  · intro hNone
    rw [Host.isActive]
    cases hActive : s.host.active with
    | none => rfl
    | some held =>
      rw [Option.any_some, ← Bool.not_eq_true]
      exact fun hShown => hNone held.1 (h.shown_of_active (h.latest hActive) hShown)

/-! ## Entering -/

/-- What a request to start a walkthrough leaves when it is turned down: a run that is on the screen goes on, and one
that has ended is released. -/
structure Unmoved (h after : Host) : Prop where
  active   : after.active = h.active.filter (·.2.isActive)
  bubbles  : after.bubbles.filter (!·.isRemoved) = h.bubbles.filter (!·.isRemoved)
  anchors  : after.anchors = h.anchors
  store    : after.store = h.store
  disk     : after.disk = h.disk
  runCount : after.runCount = h.runCount

theorem unmoved_reap (h : Host) (now : Nanos) : Unmoved h (h.reap now) := by
  refine ⟨rfl, ?_, rfl, rfl, rfl, rfl⟩
  show (h.bubbles.filter fun f => !f.isGone now).filter _ = _
  rw [List.filter_filter]
  refine List.filter_congr fun f _ => ?_
  -- a bubble that has shrunk away was removed before
  rw [FloatingBubble.isRemoved, FloatingBubble.isGone]
  cases f.goneAt <;> simp

/-- What a request to start a walkthrough of a provider comes to. -/
structure Entry (s : History) (request : StartRequest) (provider : Provider)
    (out : Host × Option RunId × List Notice) : Prop where
  /-- It is granted exactly when no run shows a step, there is a step to show, and the walkthrough is not known to have
  been completed or that does not matter. -/
  granted : out.2.1.isSome = true ↔ (∀ id, ¬ s.IsShown id) ∧ provider.steps ≠ [] ∧
    (request.force = true ∨ s.host.store.isCompleted provider.completionKey ≠ .ok true)
  /-- The handle is that of a new run of this provider, which shows a step. -/
  handle  : ∀ id, out.2.1 = some id → id = s.host.runCount ∧ ∃ run, out.1.reach id = .found run ∧
    run.identity = some provider.identity ∧ ∃ i, run.state = .running i
  refused : out.2.1 = none → Unmoved s.host out.1

theorem entry {s : History} (h : Kept s) (hAlone : Alone s) (request : StartRequest) (provider : Provider)
    (now : Nanos) : Entry s request provider (s.host.startWith provider request now) where
  granted := by
    rw [Host.startWith_admits, isActive_eq_false_iff h hAlone]
    rfl
  handle := by
    intro id hSome
    rcases Host.startWith_cases s.host provider request now with ⟨hNone, -⟩ | ⟨run, hThis, hLaunched⟩
    · rw [hNone] at hSome
      cases hSome
    · rw [hThis] at hSome
      cases hSome
      refine ⟨rfl, run, ?_, hLaunched.identity, hLaunched.shown⟩
      rw [Host.reach, hLaunched.active]
      exact if_pos rfl
  refused := by
    intro hNone
    rw [Host.startWith_refused hNone]
    exact unmoved_reap s.host now

/-! ## Handles -/

/-- What the handle of a run that was launched reports and does. -/
structure Handled (s : History) (id : RunId) : Prop where
  /-- It reports the run that it was given for, as that run was entered last. -/
  reports : ∀ run, s.host.reach id = .found run → s.latest id = some run
  /-- It finds that run as long as it is on the screen. -/
  held : ∀ run, s.latest id = some run → run.isActive = true → s.host.reach id = .found run
  /-- It moves that run, as a direct call does. -/
  steps : ∀ run now, s.host.reach id = .found run →
    (s.host.stepThrough id (.found run) now).2.1 = (run.advance .explicit now).2.1 ∧
      (s.step (.step id, now)).latest id = some (run.advance .explicit now).1
  dismisses : ∀ run now, s.host.reach id = .found run →
    (s.host.dismissThrough id (.found run)).2.1 = run.dismiss.2 ∧
      (s.step (.dismiss id, now)).latest id = some run.dismiss.1
  /-- It moves no other run. -/
  others : ∀ op now, op = .step id ∨ op = .dismiss id →
    ∀ other, other ≠ id → (s.step (op, now)).log other = s.log other
  /-- Once the run was released it reports nothing and does nothing, whatever is on the screen by then. -/
  released : (∀ run, s.host.reach id ≠ .found run) → ∀ more, Host.Mute (s.after more).host id
  disappeared : ∀ now more, Host.Mute ((s.step (.disappear, now)).after more).host id

theorem after_mute {s : History} {id : RunId} (hReleased : s.host.Released id) (more : List (Op × Nanos)) :
    Host.Mute (s.after more).host id :=
  (after_induction (P := fun t => t.host.Released id)
    (fun _ moment hGone => Host.perform_released hGone moment.1 moment.2) hReleased more).mute

/-- What a call through a handle enters is under the number of its run. -/
theorem log_call {s : History} {id other : RunId} (hOther : other ≠ id) {op : Op} (now : Nanos)
    (hCall : op = .step id ∨ op = .dismiss id) : (s.step (op, now)).log other = s.log other := by
  have hStarts : ∀ request, op ≠ .start request := by
    rintro request rfl
    rcases hCall with hCall | hCall <;> cases hCall
  have hNone := Host.launched_other hStarts s.host now
  have hFresh : ∀ launched, op.launched s.host now = some launched → launched.1 ≠ other := by
    intro launched hSome
    rw [hNone] at hSome
    cases hSome
  rcases Host.reach_cases s.host id with ⟨run, hActive, -⟩ | ⟨hAny, -⟩
  · refine log_step_other (fun held hHeld => ?_) hFresh
    rw [hActive] at hHeld
    cases hHeld
    exact hOther rfl
  · exact log_step_absent (.inr (Host.onRun_unreached hAny hCall)) hFresh

theorem handled {s : History} (h : Kept s) (hAlone : Alone s) {id : RunId} (hId : id < s.host.runCount) :
    Handled s id where
  reports := fun run hFound => h.latest (active_of_found hFound)
  held := by
    intro run hLatest hShown
    rw [Host.reach, hAlone id run hLatest hShown]
    exact if_pos rfl
  steps := by
    intro run now hFound
    have hActive := active_of_found hFound
    refine ⟨rfl, ?_⟩
    rw [latest_held h _ now hActive, Host.outcome_step hActive]
  dismisses := by
    intro run now hFound
    have hActive := active_of_found hFound
    refine ⟨rfl, ?_⟩
    rw [latest_held h _ now hActive, Host.outcome_dismiss hActive]
  others := fun op now hCall other hOther => log_call hOther now hCall
  released := by
    intro hLost more
    rcases Host.reach_cases s.host id with ⟨run, -, hFound⟩ | ⟨-, hGone⟩
    · exact absurd hFound (hLost run)
    · exact after_mute ⟨hId, hGone⟩ more
  disappeared := by
    intro now more
    have hReleased : (s.step (.disappear, now)).host.Released id := ⟨hId, rfl⟩
    exact after_mute hReleased more

/-! ## Remembering -/

/-- Requests for walkthroughs of an identity are turned down unless they insist. -/
def Refuses (h : Host) (identity : String) : Prop :=
  ∀ request provider now, (request.provider <|> h.provider) = some provider → provider.identity = identity →
    request.force = false → ∃ after notices, h.start request now = .ok (after, none, notices)

theorem refuses_of_set {h : Host} {identity : String}
    (hSet : h.store.isCompleted (completionKey identity) = .ok true) : Refuses h identity := by
  intro request provider now hProvider hIdentity hForce
  have hNot : (h.startWith provider request now).2.1.isSome ≠ true := by
    rw [Ne, Host.startWith_admits, hIdentity, hForce]
    rintro ⟨-, -, hForced | hUnset⟩
    · cases hForced
    · exact hUnset hSet
  have hNone : (h.startWith provider request now).2.1 = none := by simpa using hNot
  refine ⟨(h.startWith provider request now).1, (h.startWith provider request now).2.2, ?_⟩
  rw [Host.start, hProvider, ← hNone]

theorem remembers_after {s : History} {key : String} (h : Kept s)
    (hSet : s.host.store.isCompleted key = .ok true) (more : List (Op × Nanos))
    (hSpared : ∀ m ∈ more, m.1.sparesFlag key) : (s.after more).host.store.isCompleted key = .ok true := by
  -- on the operations to come; soundness of the held run comes along with the stories
  induction more generalizing s with
  | nil => exact hSet
  | cons m rest ih =>
    have hNext : (s.step m).host.store.isCompleted key = .ok true :=
      Host.perform_remembers hSet (hSpared m List.mem_cons_self)
    exact ih (step_kept s m h) hNext fun m' hLater => hSpared m' (List.mem_cons_of_mem m hLater)

/-- The operation that completes a run sets its flag, if the store can be written. -/
theorem step_remembers {s : History} (h : Kept s) {moment : Op × Nanos} {id : RunId} {stage : Run.Stage}
    {identity : String} (hBefore : Run.reached (s.log id) = false)
    (hStage : (id, stage) ∈ s.host.stages moment.1 moment.2) (hEnd : stage.run.state = .completed)
    (hIdentity : stage.run.identity = some identity)
    (hWritten : (s.host.store.setCompleted s.host.disk (completionKey identity) true).answer = .ok ()) :
    (s.step moment).host.store.isCompleted (completionKey identity) = .ok true := by
  obtain ⟨op, now⟩ := moment
  dsimp only at hStage
  rcases Host.op_cases s.host op now with ⟨runOp, this, run, hOp, hActive⟩ | ⟨request, rfl⟩ | ⟨hAbsent, hOther⟩
  · rw [Host.stages_run hOp hActive] at hStage
    obtain ⟨own, hOwn, hSame⟩ := List.mem_map.mp hStage
    cases hSame
    -- the run was not completed before, as its last entry tells
    have hFresh : run.state ≠ .completed := by
      obtain ⟨last, hLast, rfl⟩ := Option.map_eq_some_iff.mp (h.latest hActive)
      exact Run.reached_eq_false_iff.mp hBefore last (List.mem_of_getLast? hLast)
    have hTurn := Run.perform_turn runOp now (h.sound hActive)
    have hRemembered := Run.passage_remembers hTurn hFresh hOwn hEnd hIdentity
    show (s.host.perform op now).1.store.isCompleted _ = _
    rw [Host.perform_store, Host.wants_run hOp hActive, hRemembered, Host.outside_run hOp]
    exact Store.markCompleted_sets hWritten
  · -- a run that is launched shows its first step
    rw [Host.stages_absent (.inr rfl)] at hStage
    rcases Host.perform_start_cases s.host request now with ⟨hNone, -⟩ | ⟨provider, run, -, hSome, hLaunched⟩
    · rw [hNone] at hStage
      cases hStage
    · rw [hSome] at hStage
      cases List.mem_singleton.mp hStage
      obtain ⟨i, hState⟩ := hLaunched.shown
      rw [hState] at hEnd
      cases hEnd
  · rw [Host.stages_absent hAbsent, Host.launched_other hOther] at hStage
    cases hStage

/-! ## Every history -/

/-- What holds of a host at any time. -/
structure Admission (s : History) : Prop where
  /-- A request to start a walkthrough for which there is a provider has an answer. -/
  start : ∀ request provider now, (request.provider <|> s.host.provider) = some provider →
    ∃ out, s.host.start request now = .ok out ∧ Entry s request provider out
  /-- At most one run shows a step. -/
  alone : ∀ id other, s.IsShown id → s.IsShown other → id = other
  /-- At most one run has a veil, and the host counts it. -/
  veils : ∀ id run, s.latest id = some run → run.hasVeil = true →
    s.host.veilCount = 1 ∧ ∀ other run', s.latest other = some run' → run'.hasVeil = true → other = id
  handles : ∀ id < s.host.runCount, Handled s id
  /-- A walkthrough that was completed when the store could be written is refused as long as its flag is not cleared. -/
  remembered : ∀ moment id stage identity, Run.reached (s.log id) = false →
    (id, stage) ∈ s.host.stages moment.1 moment.2 → stage.run.state = .completed →
    stage.run.identity = some identity →
    (s.host.store.setCompleted s.host.disk (completionKey identity) true).answer = .ok () →
    ∀ more, (∀ m ∈ more, m.1.sparesFlag (completionKey identity)) → Refuses ((s.step moment).after more).host identity

theorem Kept.admission {s : History} (h : Kept s) (hAlone : Alone s) : Admission s where
  start := by
    intro request provider now hProvider
    refine ⟨_, ?_, entry h hAlone request provider now⟩
    rw [Host.start, hProvider]
  alone := by
    rintro id other ⟨run, i, hRun, hState⟩ ⟨run', i', hRun', hState'⟩
    refine hAlone.unique hRun ?_ hRun' ?_
    · rw [Run.isActive, hState]
      rfl
    · rw [Run.isActive, hState']
      rfl
  veils := by
    have hShown : ∀ {id run}, s.latest id = some run → run.hasVeil = true → run.isActive = true := by
      intro id run hRun hVeil
      rw [(h.latest_sound hRun).veil, Bool.and_eq_true] at hVeil
      exact hVeil.1
    intro id run hRun hVeil
    refine ⟨?_, fun other run' hRun' hVeil' => ?_⟩
    · rw [Host.veilCount, hAlone id run hRun (hShown hRun hVeil)]
      simp [hVeil]
    · exact hAlone.unique hRun' (hShown hRun' hVeil') hRun (hShown hRun hVeil)
  handles := fun id hId => handled h hAlone hId
  remembered := by
    intro moment id stage identity hBefore hStage hEnd hIdentity hWritten more hSpared
    have hSet := step_remembers h hBefore hStage hEnd hIdentity hWritten
    exact refuses_of_set (remembers_after (step_kept s moment h) hSet more hSpared)

/--
**Who may start.** Whatever sequence of operations a host goes through, at any readings of the clock: a walkthrough is
started exactly when no other one shows a step, it has steps itself, and it is not known to have been completed or that
does not matter; at most one run shows a step and at most one has a veil; a handle reaches the run that it was given for
and no other, until that run is released; and a walkthrough that was completed stays so until its flag is cleared.
-/
theorem history_admission (store : Store) (disk : Disk) (anchors : Anchors) (provider : Option Provider)
    (moments : List (Op × Nanos)) : Admission ((opening store disk anchors provider).after moments) := by
  have hOpening := opening_kept store disk anchors provider
  have hBoth := after_induction (P := fun s => Kept s ∧ Alone s)
    (fun s moment h => ⟨step_kept s moment h.1, step_alone h.1 h.2 moment⟩)
    ⟨hOpening, fun _ _ hLatest => nomatch hLatest⟩ moments
  exact hBoth.1.admission hBoth.2

/-- A completed walkthrough is not started again until its flag is cleared; the handle of its first run stays silent
while the second one is on the screen. -/
example :
    let request : StartRequest := { provider := some ⟨"tour", [.centered default .zero]⟩ }
    let s := (opening (.memory .empty) .fresh .empty none).after
      [(.start request, 0), (.step 0, 1), (.start request, 2), (.alter (.memory .empty) .fresh, 3), (.start request, 4),
        (.step 0, 5)]
    s.host.runCount = 2 ∧ (s.host.reach 0).state? = none ∧ (s.host.reach 1).state? = some (.running 0) := by decide

end History

end GuidedTour
