import GuidedTour.Proofs.Completion.Flags
import GuidedTour.Proofs.Host.Report

/-!
# What a host holds, lets go of, and remembers

A host holds on to a run as long as the run is on the screen, and a run that it has let go of never comes back. A
request to start a walkthrough is turned down without a trace, apart from what has ended anyway. A flag that is set stays
set unless others clear it.

Main results:

* `held_while_active` - an operation that leaves a run on the screen leaves it with the host.
* `startWith_admits`, `startWith_refused` - when a walkthrough is started, and what is left otherwise.
* `perform_released` - the handle of a run that was released finds nothing ever after.
* `perform_remembers` - what the host does to the store clears no flag.
-/

namespace GuidedTour

open Layout Screen Completion Storage

/-! ## Flags -/

namespace Completion.Store

theorem hasCompleted_iff {s : Store} {identity : String} :
    (s.hasCompleted identity).1 = true ↔ s.isCompleted (completionKey identity) = .ok true := by
  unfold hasCompleted
  split
  · next b hRead =>
    rw [hRead]
    simp
  · next e hRead =>
    rw [hRead]
    simp

theorem value_set_true (flags : Flags) {key other : String} (h : flags.value other = true ∨ other = key) :
    (flags.set key true).value other = true := by
  rw [Flags.value_set]
  split
  · rfl
  · next hOther => exact h.resolve_right hOther

/-- Marking a walkthrough as completed clears no flag. -/
theorem markCompleted_keeps {s : Store} {key : String} (hSet : s.isCompleted key = .ok true) (d : Disk)
    (identity : String) : (s.markCompleted d identity true).1.isCompleted key = .ok true := by
  cases s with
  | memory flags => exact congrArg _ (value_set_true flags (.inl (Except.ok.inj hSet)))
  | file path flags => exact congrArg _ (value_set_true flags (.inl (Except.ok.inj hSet)))
  | refusing => cases hSet

/-- A write that does not fail is read back. -/
theorem markCompleted_sets {s : Store} {d : Disk} {identity : String}
    (hWritten : (s.setCompleted d (completionKey identity) true).answer = .ok ()) :
    (s.markCompleted d identity true).1.isCompleted (completionKey identity) = .ok true := by
  cases s with
  | memory flags => exact congrArg _ (value_set_true flags (.inr rfl))
  | file path flags => exact congrArg _ (value_set_true flags (.inr rfl))
  | refusing => cases hWritten

end Completion.Store

namespace Host

theorem remembering_keeps {store : Store} {key : String} (hSet : store.isCompleted key = .ok true) (disk : Disk)
    (identities : List String) : (remembering store disk identities).1.isCompleted key = .ok true := by
  induction identities generalizing store disk with
  | nil => exact hSet
  | cons identity rest ih => exact ih (Store.markCompleted_keeps hSet disk identity) _

/-- Whether an operation leaves a flag set: only others clear it, by giving the host another store. -/
def Op.sparesFlag (op : Op) (key : String) : Prop :=
  match op with
  | .alter store _ => store.isCompleted key = .ok true
  | _ => True

theorem perform_remembers {h : Host} {op : Op} {now : Nanos} {key : String}
    (hSet : h.store.isCompleted key = .ok true) (hSpares : op.sparesFlag key) :
    (h.perform op now).1.store.isCompleted key = .ok true := by
  rw [perform_store]
  refine remembering_keeps ?_ _ _
  cases op with
  | alter store disk => exact hSpares
  | _ => exact hSet

/-! ## Starting -/

/-- A request that is turned down leaves everything, apart from what has ended anyway: a run that is not on the screen
any more, and bubbles that have shrunk away. -/
theorem startWith_refused {h : Host} {provider : Provider} {request : StartRequest} {now : Nanos}
    (hNone : (h.startWith provider request now).2.1 = none) : (h.startWith provider request now).1 = h.reap now := by
  unfold startWith at hNone ⊢
  dsimp only at hNone ⊢
  by_cases hHeld : (h.reap now).active.isSome = true
  · rw [if_pos hHeld]
  rw [if_neg hHeld] at hNone ⊢
  generalize (if request.force = true then (false, []) else _ : Bool × List Warning) = asked at hNone ⊢
  by_cases hDone : asked.1 = true
  · rw [if_pos hDone]
  rw [if_neg hDone] at hNone ⊢
  split at hNone
  · cases hNone
  · next hRefused => rw [if_neg hRefused]

theorem startWith_admits {h : Host} {provider : Provider} {request : StartRequest} {now : Nanos} :
    (h.startWith provider request now).2.1.isSome = true ↔ h.isActive = false ∧ provider.steps ≠ [] ∧
      (request.force = true ∨ h.store.isCompleted (completionKey provider.identity) ≠ .ok true) := by
  have hHeld := isSome_reap h now
  -- a request that insists does not ask, and what cannot be read is no reason to refuse
  have hAsked : (if request.force = true then (false, []) else h.store.hasCompleted provider.identity).1 = false ↔
      request.force = true ∨ h.store.isCompleted (completionKey provider.identity) ≠ .ok true := by
    cases hForce : request.force with
    | true => simp
    | false =>
      rw [if_neg Bool.false_ne_true, ← Bool.not_eq_true, Store.hasCompleted_iff]
      simp
  -- the run that would be launched
  let run : Run :=
    { steps := provider.steps, settings := request.settings, style := request.style,
      identity := some provider.identity, delegate := request.delegate }
  have hStarted : (run.start now).2 = true ↔ provider.steps ≠ [] := by
    cases hSteps : provider.steps with
    | nil => simp [Run.start, run, hSteps]
    | cons => simp [Run.start, run, hSteps]
  rw [← hAsked, ← hHeld, ← hStarted]
  unfold startWith
  dsimp only
  by_cases hReaped : (h.reap now).active.isSome = true
  · rw [if_pos hReaped, hReaped]
    exact ⟨fun hSome => absurd hSome Bool.false_ne_true, fun hNone => absurd hNone.1.symm Bool.false_ne_true⟩
  rw [if_neg hReaped]
  have hStore : (h.reap now).store = h.store := rfl
  rw [hStore]
  generalize (if request.force = true then (false, []) else h.store.hasCompleted provider.identity) = asked
  rw [Bool.not_eq_true] at hReaped
  by_cases hDone : asked.1 = true
  · rw [if_pos hDone, hDone]
    exact ⟨fun hSome => absurd hSome Bool.false_ne_true, fun hOpen => absurd hOpen.2.2.symm Bool.false_ne_true⟩
  rw [if_neg hDone]
  rw [Bool.not_eq_true] at hDone
  show (if (run.start now).2 = true then _ else _ : Host × Option RunId × List Notice).2.1.isSome = true ↔ _
  by_cases hFirst : (run.start now).2 = true
  · rw [if_pos hFirst]
    exact ⟨fun _ => ⟨hReaped, hFirst, hDone⟩, fun _ => rfl⟩
  · rw [if_neg hFirst]
    exact ⟨fun hSome => absurd hSome Bool.false_ne_true, fun hOpen => absurd hOpen.2.1 hFirst⟩

/-! ## Holding on to a run -/

/-- What an operation makes of the run that the host holds, whether the host then still holds it or not. -/
def Op.outcome (op : Op) (h : Host) (now : Nanos) (run : Run) : Run :=
  match op.onRun h now with
  | some runOp => (run.perform runOp now).1
  | none => run

section Holding

variable {h : Host} {id : RunId} {run : Run} {now : Nanos}

theorem outcome_step (hActive : h.active = some (id, run)) :
    Op.outcome (.step id) h now run = (run.advance .explicit now).1 := by
  rw [Op.outcome, Op.onRun, hActive, Option.any_some, if_pos (decide_eq_true rfl)]
  rfl

theorem outcome_dismiss (hActive : h.active = some (id, run)) :
    Op.outcome (.dismiss id) h now run = run.dismiss.1 := by
  rw [Op.outcome, Op.onRun, hActive, Option.any_some, if_pos (decide_eq_true rfl)]
  rfl

/-- A call through the handle of another run reaches nothing. -/
theorem onRun_unreached {target : RunId} {op : Op} (hOther : h.active.any (·.1 = target) = false)
    (hCall : op = .step target ∨ op = .dismiss target) : op.onRun h now = none := by
  rcases hCall with rfl | rfl <;> exact if_neg (Bool.not_eq_true _ ▸ hOther)

theorem outcome_unreached {target : RunId} {op : Op} (hOther : h.active.any (·.1 = target) = false)
    (hCall : op = .step target ∨ op = .dismiss target) : op.outcome h now run = run := by
  rw [Op.outcome, onRun_unreached hOther hCall]

theorem settle_active (h : Host) (id : RunId) (run : Run) (effects : List Effect) :
    (h.settle id run effects).1.active = some (id, run) := by
  have hSettle : h.settle id run effects = _ := settle_eq h h.bubbles id run effects
  rw [hSettle]

theorem reap_held (hActive : h.active = some (id, run)) (hShown : run.isActive = true) (now : Nanos) :
    (h.reap now).active = some (id, run) := by
  show h.active.filter _ = _
  rw [hActive, Option.filter_some, if_pos hShown]

theorem held_while_active {op : Op} (hActive : h.active = some (id, run))
    (hShown : (op.outcome h now run).isActive = true) :
    (h.perform op now).1.active = some (id, op.outcome h now run) := by
  cases op with
  | start request =>
    -- a run on the screen is in the way of another one
    have hReaped := reap_held hActive hShown now
    cases hProvider : request.provider <|> h.provider with
    | none =>
      have hSame : (h.perform (.start request) now).1 = h := by simp only [perform, start, hProvider]
      rw [hSame]
      exact hActive
    | some provider =>
      simp only [perform, start, hProvider]
      unfold startWith
      dsimp only
      rw [if_pos (by rw [hReaped]; rfl)]
      exact hReaped
  | handle e =>
    -- the run is put back, and then only one that is off the screen is released
    unfold perform handle
    rw [hActive]
    exact reap_held (settle_active ..) hShown now
  | tick =>
    obtain ⟨bubbles, callbacks, hTick⟩ := tick_frame h now
    have hRun : (h.tickRun now).1.active = some (id, (run.tick now).1) := by
      rw [tickRun, hActive]
      exact settle_active ..
    show (h.tick now).1.active = _
    rw [hTick]
    exact reap_held hRun hShown now
  | draw area b =>
    unfold perform draw
    dsimp only
    rw [hActive]
    exact settle_active ..
  | disappear =>
    -- the run is dismissed before it is released, so it does not count as shown
    exfalso
    have hOver : (run.dismiss.1).isActive = false := by
      unfold Run.dismiss
      split
      · rfl
      · next hOff => exact Bool.not_eq_true _ ▸ hOff
    exact absurd (hOver.symm.trans hShown) Bool.false_ne_true
  | step target =>
    rcases reach_cases h target with ⟨held, hHeld, hFound⟩ | ⟨hOther, hGone⟩
    · obtain ⟨rfl, rfl⟩ := Prod.mk.inj (Option.some.inj (hHeld.symm.trans hActive))
      rw [outcome_step hActive]
      simp only [perform, hFound, stepThrough]
      exact settle_active ..
    · rw [outcome_unreached hOther (.inl rfl)]
      simp only [perform, hGone, stepThrough]
      exact hActive
  | dismiss target =>
    rcases reach_cases h target with ⟨held, hHeld, hFound⟩ | ⟨hOther, hGone⟩
    · obtain ⟨rfl, rfl⟩ := Prod.mk.inj (Option.some.inj (hHeld.symm.trans hActive))
      rw [outcome_dismiss hActive]
      simp only [perform, hFound, dismissThrough]
    · rw [outcome_unreached hOther (.inr rfl)]
      simp only [perform, hGone, dismissThrough]
      exact hActive
  | revise index view =>
    unfold perform
    dsimp only
    rw [hActive]
    rfl
  | _ => exact hActive

/-- What holds of the run that the host holds, if no operation of the run undoes it. -/
theorem perform_holds {P : Run → Prop} {op : Op} (hHeld : ∀ id run, h.active = some (id, run) → P run)
    (hGoes : ∀ run runOp, P run → P (run.perform runOp now).1) (hLaunch : ∀ id run, op.launched h now = some (id, run) →
      run.Sound → P run) : ∀ id run, (h.perform op now).1.active = some (id, run) → P run := by
  intro id run hAfter
  rcases op_cases h op now with ⟨runOp, held, before, hOp, hActive⟩ | ⟨request, rfl⟩ | ⟨hAbsent, hOther⟩
  · rcases (perform_settled hOp hActive).active with hSame | hNone
    · rw [hSame] at hAfter
      cases hAfter
      exact hGoes before runOp (hHeld _ before hActive)
    · rw [hNone] at hAfter
      cases hAfter
  · rcases perform_start_cases h request now with ⟨-, hSpared⟩ | ⟨provider, launched, -, hSome, hLaunched⟩
    · rcases hSpared.active with hSame | hNone
      · exact hHeld id run (hSame ▸ hAfter)
      · rw [hNone] at hAfter
        cases hAfter
    · rw [hLaunched.active] at hAfter
      cases hAfter
      exact hLaunch _ _ hSome hLaunched.sound
  · have hOutside : (op.outside h).active = h.active := by cases op <;> rfl
    rcases (perform_spared hAbsent hOther).active with hSame | hNone
    · exact hHeld id run (hOutside ▸ hSame ▸ hAfter)
    · rw [hNone] at hAfter
      cases hAfter

theorem perform_sound (hSound : ∀ id run, h.active = some (id, run) → run.Sound) (op : Op) (now : Nanos) :
    ∀ id run, (h.perform op now).1.active = some (id, run) → run.Sound :=
  perform_holds hSound (fun _ runOp hRun => (Run.perform_turn runOp now hRun).sound hRun) fun _ _ _ hRun => hRun

end Holding

/-! ## Runs that were released -/

/-- A run was launched, and the host does not hold it any more. -/
structure Released (h : Host) (id : RunId) : Prop where
  issued : id < h.runCount
  gone   : h.reach id = .gone

theorem reach_gone_iff {h : Host} {id : RunId} : h.reach id = .gone ↔ ∀ run, h.active ≠ some (id, run) := by
  rcases reach_cases h id with ⟨run, hActive, hFound⟩ | ⟨hOther, hGone⟩
  · rw [hFound]
    exact ⟨nofun, fun hNever => absurd hActive (hNever run)⟩
  · refine ⟨fun _ run hActive => ?_, fun _ => hGone⟩
    rw [hActive, Option.any_some, decide_eq_true rfl] at hOther
    cases hOther

theorem perform_released {h : Host} {id : RunId} (hReleased : h.Released id) (op : Op) (now : Nanos) :
    (h.perform op now).1.Released id := by
  have hNever := reach_gone_iff.mp hReleased.gone
  have hIssued := hReleased.issued
  have hProgress := perform_progress h op now
  generalize h.stages op now = stages at hProgress
  cases hProgress with
  | idle hActive hCount =>
    refine ⟨hCount ▸ hIssued, reach_gone_iff.mpr fun run hHeld => ?_⟩
    rcases hActive with hSame | hNone
    · exact hNever run (hSame ▸ hHeld)
    · rw [hNone] at hHeld
      cases hHeld
  | launch hLaunched =>
    -- the number of the new run was not given away before
    refine ⟨hLaunched.runCount ▸ Nat.lt_succ_of_lt hIssued, reach_gone_iff.mpr fun run hHeld => ?_⟩
    rw [hLaunched.active] at hHeld
    cases hHeld
    exact Nat.lt_irrefl _ hIssued
  | run runOp hBefore hAfter hCount =>
    refine ⟨hCount ▸ hIssued, reach_gone_iff.mpr fun run hHeld => ?_⟩
    rcases hAfter with hSame | hNone
    · rw [hSame] at hHeld
      cases hHeld
      exact hNever _ hBefore
    · rw [hNone] at hHeld
      cases hHeld

/-- What a handle does when its run was released: nothing. -/
structure Mute (h : Host) (id : RunId) : Prop where
  state   : (h.reach id).state? = none
  step    : ∀ now, h.stepThrough id (h.reach id) now = (h, .ignored, [])
  dismiss : h.dismissThrough id (h.reach id) = (h, false, [])

theorem Released.mute {h : Host} {id : RunId} (hReleased : h.Released id) : Mute h id := by
  constructor <;> rw [hReleased.gone] <;> intros <;> rfl

end Host

end GuidedTour
