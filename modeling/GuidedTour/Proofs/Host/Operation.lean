import GuidedTour.Host.Handle
import GuidedTour.Proofs.Run.Life

/-!
# What one operation makes of a host

Whatever is asked of a host, the run it holds takes part in at most one way: nothing happens to it, a new run is
launched, or the run goes through the stages of one operation of its own. `Progress` says so, and later proofs argue
by it and never open an operation of the host again.

Main results:

* `perform_settled` / `perform_spared` / `perform_start_cases` - what an operation leaves of the host, by whether it
  reaches the run.
* `perform_progress` - what every operation does to the run that the host holds.
-/

namespace GuidedTour

open Layout Screen Completion Storage

namespace Host

/-! ## Operations -/

/-- What can happen to a host. -/
inductive Op where
  | start (request : StartRequest)
  | handle (e : Event)
  | tick
  | draw (area : Rect) (b : Buffer)
  | disappear
  /-- The call for the next step through the handle of a run, whether the host still holds that run or not. -/
  | step (id : RunId)
  /-- The dismissal through the handle of a run. -/
  | dismiss (id : RunId)
  | showBubble (step : Step) (options : BubbleOptions)
  | removeBubble (id : BubbleId)
  /-- The screen draws its views elsewhere. -/
  | arrange (anchors : Anchors)
  /-- The view inside a step's bubble changes by itself. -/
  | revise (index : Nat) (view : CustomContent)
  /-- Others write to the store or to the disk. -/
  | alter (store : Store) (disk : Disk)

/-- Carries out an operation at a reading of the clock. Without a provider nothing is started. -/
def perform (h : Host) (op : Op) (now : Nanos) : Host × List Notice :=
  match op with
  | .start request =>
    match h.start request now with
    | .ok (h, _, notices) => (h, notices)
    | .error _ => (h, [])
  | .handle e => ((h.handle e now).1, (h.handle e now).2.2)
  | .tick => h.tick now
  | .draw area b => ((h.draw area b now).1, (h.draw area b now).2.2)
  | .disappear => (h.disappear, [])
  | .step id => ((h.stepThrough id (h.reach id) now).1, (h.stepThrough id (h.reach id) now).2.2)
  | .dismiss id => ((h.dismissThrough id (h.reach id)).1, (h.dismissThrough id (h.reach id)).2.2)
  | .showBubble step options => ((h.showBubble step options now).1, [])
  | .removeBubble id => (h.removeBubble id now, [])
  | .arrange anchors => ({ h with anchors := anchors }, [])
  | .revise index view => ({ h with active := h.active.map fun (id, run) => (id, run.revise index view) }, [])
  | .alter store disk => ({ h with store := store, disk := disk }, [])

/-- The operation on the run that the host holds, if the host passes one on to it. -/
def Op.onRun (op : Op) (h : Host) (now : Nanos) : Option Run.Op :=
  match op with
  | .handle e => some (.handle e)
  | .tick => some .tick
  | .draw area b => some (.draw area (drawBubbles area h.anchors now h.bubbles b).2.1 h.anchors)
  | .disappear => some .dismiss
  | .step id => if h.active.any (·.1 = id) then some .step else none
  | .dismiss id => if h.active.any (·.1 = id) then some .dismiss else none
  | .revise index view => some (.revise index view)
  | _ => none

/-- The run that an operation launches. -/
def Op.launched (op : Op) (h : Host) (now : Nanos) : Option (RunId × Run) :=
  match op with
  | .start request =>
    match h.start request now with
    | .ok (h, some _, _) => h.active
    | _ => none
  | _ => none

/-- The stages that an operation takes the host's run through, each under the number of the run. A run that is
launched begins with one. -/
def stages (h : Host) (op : Op) (now : Nanos) : List (RunId × Run.Stage) :=
  match h.active, op.onRun h now with
  | some (id, run), some runOp => (run.passage (run.perform runOp now)).map fun stage => (id, stage)
  | _, _ => (op.launched h now).toList.map fun (id, run) => (id, ⟨run, []⟩)

/-! ## Frames -/

theorem applyAll_frame (h : Host) (active : Option (RunId × Run)) (bubbles : List FloatingBubble)
    (effects : List Effect) :
    applyAll { h with active := active, bubbles := bubbles } effects =
      ({ (h.applyAll effects).1 with active := active, bubbles := bubbles }, (h.applyAll effects).2) := by
  -- one effect at a time; a notification and a warning do not even touch the store
  induction effects generalizing h with
  | nil => rfl
  | cons e rest ih =>
    have hFirst : apply { h with active := active, bubbles := bubbles } e =
        ({ (h.apply e).1 with active := active, bubbles := bubbles }, (h.apply e).2) := by
      cases e <;> rfl
    simp only [applyAll]
    rw [hFirst, ih]

/-- What is done outside of a run touches nothing but the store and the disk. -/
theorem applyAll_outside (h : Host) (effects : List Effect) :
    ∃ store disk, (h.applyAll effects).1 = { h with store := store, disk := disk } := by
  induction effects generalizing h with
  | nil => exact ⟨h.store, h.disk, rfl⟩
  | cons e rest ih =>
    have hFirst : ∃ store disk, (h.apply e).1 = { h with store := store, disk := disk } := by
      cases e <;> exact ⟨_, _, rfl⟩
    obtain ⟨store, disk, hFirst⟩ := hFirst
    obtain ⟨store', disk', hRest⟩ := ih (h.apply e).1
    rw [hFirst] at hRest
    refine ⟨store', disk', ?_⟩
    show ((h.apply e).1.applyAll rest).1 = _
    rw [hFirst, hRest]

theorem applyAll_runCount (h : Host) (effects : List Effect) : (h.applyAll effects).1.runCount = h.runCount := by
  obtain ⟨store, disk, hAfter⟩ := h.applyAll_outside effects
  rw [hAfter]

theorem runCallbacks_frame (h : Host) (now : Nanos) (callbacks : List BubbleCallback) :
    ∃ bubbles, (h.runCallbacks now callbacks).1 = { h with bubbles := bubbles } := by
  have hRemove : ∀ (ids : List BubbleId) (h : Host),
      ∃ bubbles, ids.foldl (fun h id => h.removeBubble id now) h = { h with bubbles := bubbles } := by
    intro ids
    induction ids with
    | nil => exact fun h => ⟨h.bubbles, rfl⟩
    | cons id rest ih =>
      intro h
      obtain ⟨bubbles, hRest⟩ := ih (h.removeBubble id now)
      exact ⟨bubbles, hRest⟩
  -- each callback starts from the bubbles that the one before has left
  induction callbacks generalizing h with
  | nil => exact ⟨h.bubbles, rfl⟩
  | cons c rest ih =>
    obtain ⟨bubbles, hFirst⟩ := hRemove c.removes h
    obtain ⟨others, hRest⟩ := ih { h with bubbles := bubbles }
    refine ⟨others, ?_⟩
    simp only [runCallbacks, runCallback]
    rw [hFirst, hRest]

theorem reap_active (h : Host) (now : Nanos) : (h.reap now).active = h.active ∨ (h.reap now).active = none := by
  show h.active.filter _ = h.active ∨ h.active.filter _ = none
  cases h.active with
  | none => exact .inl rfl
  | some held =>
    rw [Option.filter_some]
    split
    · exact .inl rfl
    · exact .inr rfl

theorem tick_frame (h : Host) (now : Nanos) :
    ∃ bubbles callbacks, h.tick now =
      ({ (h.tickRun now).1.reap now with bubbles := bubbles }, (h.tickRun now).2 ++ callbacks) := by
  unfold tick
  dsimp only
  obtain ⟨bubbles, hCallbacks⟩ := runCallbacks_frame
    (reap { (h.tickRun now).1 with bubbles := ((h.tickRun now).1.bubbles.map fun f => f.expire now).map fun p => p.1 }
      now) now (((h.tickRun now).1.bubbles.map fun f => f.expire now).filterMap fun p => p.2)
  refine ⟨bubbles, _, Prod.ext ?_ rfl⟩
  rw [hCallbacks]
  rfl

/-! ## Operations that reach the run -/

/-- What a host has become by an operation of its run: the effects were carried out, the run was put back or
released, and of all the rest only bubbles have changed. -/
structure Settled (h : Host) (id : RunId) (out : Run × Transition × List Effect) (after : Host) : Prop where
  active : after.active = some (id, out.1) ∨ after.active = none
  rest   : ∃ active bubbles, after = { (h.applyAll out.2.2).1 with active := active, bubbles := bubbles }

theorem settle_eq (h : Host) (bubbles : List FloatingBubble) (id : RunId) (run : Run) (effects : List Effect) :
    settle { h with bubbles := bubbles } id run effects =
      ({ (h.applyAll effects).1 with active := some (id, run), bubbles := bubbles }, (h.applyAll effects).2) :=
  applyAll_frame h (some (id, run)) bubbles effects

theorem reach_cases (h : Host) (id : RunId) :
    (∃ run, h.active = some (id, run) ∧ h.reach id = .found run) ∨
      h.active.any (·.1 = id) = false ∧ h.reach id = .gone := by
  unfold reach
  cases hActive : h.active with
  | none => exact .inr ⟨rfl, rfl⟩
  | some held =>
    obtain ⟨other, run⟩ := held
    by_cases hSame : other = id
    · subst hSame
      exact .inl ⟨run, rfl, if_pos rfl⟩
    · refine .inr ⟨?_, if_neg hSame⟩
      simpa using hSame

theorem found_of_reaches {h : Host} {id target : RunId} {run : Run} (hActive : h.active = some (id, run))
    (hReaches : h.active.any (·.1 = target) = true) : id = target ∧ h.reach target = .found run := by
  rcases reach_cases h target with ⟨held, hHeld, hFound⟩ | ⟨hOther, -⟩
  · rw [hActive] at hHeld
    cases hHeld
    exact ⟨rfl, hFound⟩
  · rw [hReaches] at hOther
    cases hOther

section Settling

variable {h : Host} {id : RunId} {run : Run} {now : Nanos}

theorem handle_settled (e : Event) (hActive : h.active = some (id, run)) :
    Settled h id (run.perform (.handle e) now) (h.perform (.handle e) now).1 := by
  have hSettle : h.settle id (run.handle e now).1 (run.handle e now).2.2 = _ := settle_eq h h.bubbles id _ _
  unfold perform handle
  rw [hActive]
  dsimp only
  rw [hSettle]
  exact ⟨reap_active _ now, ⟨_, _, rfl⟩⟩

theorem tick_settled (hActive : h.active = some (id, run)) :
    Settled h id (run.perform .tick now) (h.perform .tick now).1 := by
  have hSettle : h.settle id (run.tick now).1 (run.tick now).2.2 = _ := settle_eq h h.bubbles id _ _
  have hRun : h.tickRun now = h.settle id (run.tick now).1 (run.tick now).2.2 := by rw [tickRun, hActive]
  have hReaped := reap_active (h.tickRun now).1 now
  obtain ⟨bubbles, callbacks, hTick⟩ := tick_frame h now
  show Settled h id (run.tick now) (h.tick now).1
  rw [hTick]
  rw [hRun, hSettle] at hReaped ⊢
  exact ⟨hReaped, ⟨_, _, rfl⟩⟩

theorem draw_settled (area : Rect) (b : Buffer) (hActive : h.active = some (id, run)) :
    Settled h id (run.perform (.draw area (drawBubbles area h.anchors now h.bubbles b).2.1 h.anchors) now)
      (h.perform (.draw area b) now).1 := by
  have hSettle := settle_eq h (drawBubbles area h.anchors now h.bubbles b).1 id
    (run.draw area (drawBubbles area h.anchors now h.bubbles b).2.1 h.anchors now).1
    (run.draw area (drawBubbles area h.anchors now h.bubbles b).2.1 h.anchors now).2.2
  unfold perform draw
  dsimp only
  rw [hActive] at hSettle ⊢
  dsimp only
  rw [hSettle]
  exact ⟨.inl rfl, ⟨_, _, rfl⟩⟩

theorem disappear_settled : Settled h id (run.perform .dismiss now) (h.perform .disappear now).1 := by
  have hQuiet : (run.perform .dismiss now).2.2 = [] := rfl
  refine ⟨.inr rfl, ?_⟩
  rw [hQuiet]
  exact ⟨none, [], rfl⟩

theorem step_settled (hFound : h.reach id = .found run) :
    Settled h id (run.perform .step now) (h.perform (.step id) now).1 := by
  have hSettle : h.settle id (run.advance .explicit now).1 (run.advance .explicit now).2.2 = _ :=
    settle_eq h h.bubbles id _ _
  unfold perform
  dsimp only
  rw [hFound, stepThrough]
  dsimp only
  rw [hSettle]
  exact ⟨.inl rfl, ⟨_, _, rfl⟩⟩

theorem dismiss_settled (hFound : h.reach id = .found run) :
    Settled h id (run.perform .dismiss now) (h.perform (.dismiss id) now).1 := by
  unfold perform
  dsimp only
  rw [hFound]
  exact ⟨.inl rfl, ⟨some (id, run.dismiss.1), h.bubbles, rfl⟩⟩

theorem revise_settled (index : Nat) (view : CustomContent) (hActive : h.active = some (id, run)) :
    Settled h id (run.perform (.revise index view) now) (h.perform (.revise index view) now).1 := by
  unfold perform
  dsimp only
  rw [hActive]
  exact ⟨.inl rfl, ⟨some (id, run.revise index view), h.bubbles, rfl⟩⟩

theorem perform_settled {op : Op} {runOp : Run.Op} (hOp : op.onRun h now = some runOp)
    (hActive : h.active = some (id, run)) : Settled h id (run.perform runOp now) (h.perform op now).1 := by
  cases op with
  | handle e =>
    cases hOp
    exact handle_settled e hActive
  | tick =>
    cases hOp
    exact tick_settled hActive
  | draw area b =>
    cases hOp
    exact draw_settled area b hActive
  | disappear =>
    cases hOp
    exact disappear_settled
  | step target =>
    -- the handle reaches the run only if it is the one the host holds
    obtain ⟨hReaches, hStep⟩ := Option.ite_none_right_eq_some.mp hOp
    cases hStep
    obtain ⟨rfl, hFound⟩ := found_of_reaches hActive hReaches
    exact step_settled hFound
  | dismiss target =>
    obtain ⟨hReaches, hDismiss⟩ := Option.ite_none_right_eq_some.mp hOp
    cases hDismiss
    obtain ⟨rfl, hFound⟩ := found_of_reaches hActive hReaches
    exact dismiss_settled hFound
  | revise index view =>
    cases hOp
    exact revise_settled index view hActive
  | _ => cases hOp

end Settling

/-! ## Operations that do not reach it -/

/-- The host after others have written to the store and the disk, if that is what the operation is. -/
def Op.outside (op : Op) (h : Host) : Host :=
  match op with
  | .alter store disk => { h with store := store, disk := disk }
  | _ => h

/-- The run was left, or released, and nothing was done outside. -/
structure Spared (h after : Host) : Prop where
  active   : after.active = h.active ∨ after.active = none
  runCount : after.runCount = h.runCount
  store    : after.store = h.store
  disk     : after.disk = h.disk

theorem perform_spared {h : Host} {op : Op} {now : Nanos} (hAbsent : h.active = none ∨ op.onRun h now = none)
    (hOther : ∀ request, op ≠ .start request) : Spared (op.outside h) (h.perform op now).1 := by
  cases op with
  | start request => exact absurd rfl (hOther request)
  | handle e =>
    have hNone : h.active = none := hAbsent.resolve_right nofun
    unfold perform handle
    rw [hNone]
    exact ⟨reap_active h now, rfl, rfl, rfl⟩
  | tick =>
    have hNone : h.active = none := hAbsent.resolve_right nofun
    have hRun : h.tickRun now = (h, []) := by rw [tickRun, hNone]
    have hReaped := reap_active h now
    obtain ⟨bubbles, callbacks, hTick⟩ := tick_frame h now
    rw [hRun] at hTick
    show Spared h (h.tick now).1
    rw [hTick]
    exact ⟨hReaped, rfl, rfl, rfl⟩
  | draw area b =>
    have hNone : h.active = none := hAbsent.resolve_right nofun
    unfold perform draw
    dsimp only
    rw [hNone]
    exact ⟨.inr rfl, rfl, rfl, rfl⟩
  | disappear => exact ⟨.inr rfl, rfl, rfl, rfl⟩
  | step target =>
    rcases reach_cases h target with ⟨run, hActive, -⟩ | ⟨-, hGone⟩
    · simp [Op.onRun, hActive] at hAbsent
    · unfold perform
      dsimp only
      rw [hGone]
      exact ⟨.inl rfl, rfl, rfl, rfl⟩
  | dismiss target =>
    rcases reach_cases h target with ⟨run, hActive, -⟩ | ⟨-, hGone⟩
    · simp [Op.onRun, hActive] at hAbsent
    · unfold perform
      dsimp only
      rw [hGone]
      exact ⟨.inl rfl, rfl, rfl, rfl⟩
  | revise index view =>
    have hNone : h.active = none := hAbsent.resolve_right nofun
    unfold perform
    dsimp only
    rw [hNone]
    exact ⟨.inr rfl, rfl, rfl, rfl⟩
  | _ => exact ⟨.inl rfl, rfl, rfl, rfl⟩

/-! ## Launching a run -/

/-- A run was launched as the host's next one, with its first step shown. It will be remembered under the
provider's identity, and tell the delegate of the request. -/
structure Launched (h after : Host) (provider : Provider) (request : StartRequest) (run : Run) : Prop where
  active   : after.active = some (h.runCount, run)
  runCount : after.runCount = h.runCount + 1
  store    : after.store = h.store
  disk     : after.disk = h.disk
  sound    : run.Sound
  shown    : ∃ i, run.state = .running i
  identity : run.identity = some provider.identity
  delegate : run.delegate = request.delegate

theorem startWith_cases (h : Host) (provider : Provider) (request : StartRequest) (now : Nanos) :
    (h.startWith provider request now).2.1 = none ∧ Spared h (h.startWith provider request now).1 ∨
      ∃ run, (h.startWith provider request now).2.1 = some h.runCount ∧
        Launched h (h.startWith provider request now).1 provider request run := by
  -- an ended run is released first, whatever becomes of the request
  have hReaped := reap_active h now
  unfold startWith
  dsimp only
  by_cases hHeld : (h.reap now).active.isSome = true
  · rw [if_pos hHeld]
    exact .inl ⟨rfl, hReaped, rfl, rfl, rfl⟩
  rw [if_neg hHeld]
  generalize (if request.force = true then (false, []) else _ : Bool × List Warning) = asked
  by_cases hDone : asked.1 = true
  · rw [if_pos hDone]
    exact .inl ⟨rfl, hReaped, rfl, rfl, rfl⟩
  rw [if_neg hDone]
  -- the run that would be launched
  let run : Run :=
    { steps := provider.steps, settings := request.settings, style := request.style,
      identity := some provider.identity, delegate := request.delegate }
  rcases run.start_cases now with hRefused | ⟨hState, hSteps, hStarted⟩
  · rw [hRefused]
    exact .inl ⟨rfl, hReaped, rfl, rfl, rfl⟩
  · rw [hStarted]
    have hFresh : run.Sound := .fresh rfl rfl rfl
    have hSound : (run.begun now).Sound := (Run.Turn.start hState hSteps).sound hFresh
    exact .inr ⟨run.begun now, rfl, rfl, rfl, rfl, rfl, hSound, ⟨0, rfl⟩, rfl, rfl⟩

theorem perform_start_cases (h : Host) (request : StartRequest) (now : Nanos) :
    Op.launched (.start request) h now = none ∧ Spared h (h.perform (.start request) now).1 ∨
      ∃ provider run, (request.provider <|> h.provider) = some provider ∧
        Op.launched (.start request) h now = some (h.runCount, run) ∧
        Launched h (h.perform (.start request) now).1 provider request run := by
  cases hProvider : request.provider <|> h.provider with
  | none =>
    refine .inl ⟨?_, ?_⟩
    · simp only [Op.launched, start, hProvider]
    · simp only [perform, start, hProvider]
      exact ⟨.inl rfl, rfl, rfl, rfl⟩
  | some provider =>
    have hCases := startWith_cases h provider request now
    simp only [Op.launched, perform, start, hProvider]
    generalize h.startWith provider request now = out at hCases
    obtain ⟨after, started, notices⟩ := out
    rcases hCases with ⟨rfl, hSpared⟩ | ⟨run, rfl, hLaunched⟩
    · exact .inl ⟨rfl, hSpared⟩
    · exact .inr ⟨provider, run, rfl, hLaunched.active, hLaunched⟩

/-! ## The stages of an operation -/

theorem stages_run {h : Host} {op : Op} {now : Nanos} {runOp : Run.Op} {id : RunId} {run : Run}
    (hOp : op.onRun h now = some runOp) (hActive : h.active = some (id, run)) :
    h.stages op now = (run.passage (run.perform runOp now)).map fun stage => (id, stage) := by
  unfold stages
  rw [hActive, hOp]

theorem stages_absent {h : Host} {op : Op} {now : Nanos} (hAbsent : h.active = none ∨ op.onRun h now = none) :
    h.stages op now = (op.launched h now).toList.map fun (id, run) => (id, ⟨run, []⟩) := by
  unfold stages
  rcases hAbsent with hNone | hNone
  · rw [hNone]
  · rw [hNone]
    cases h.active <;> rfl

theorem op_cases (h : Host) (op : Op) (now : Nanos) :
    (∃ runOp id run, op.onRun h now = some runOp ∧ h.active = some (id, run)) ∨
      (∃ request, op = .start request) ∨
      (h.active = none ∨ op.onRun h now = none) ∧ ∀ request, op ≠ .start request := by
  by_cases hStart : ∃ request, op = .start request
  · exact .inr (.inl hStart)
  have hOther : ∀ request, op ≠ .start request := fun request hOp => hStart ⟨request, hOp⟩
  cases hActive : h.active with
  | none => exact .inr (.inr ⟨.inl rfl, hOther⟩)
  | some held =>
    cases hOp : op.onRun h now with
    | none => exact .inr (.inr ⟨.inr rfl, hOther⟩)
    | some runOp => exact .inl ⟨runOp, held.1, held.2, rfl, rfl⟩

theorem launched_other {op : Op} (hOther : ∀ request, op ≠ .start request) (h : Host) (now : Nanos) :
    op.launched h now = none := by
  cases op with
  | start request => exact absurd rfl (hOther request)
  | _ => rfl

/-- What an operation makes of the run that the host holds, and the stages that it takes it through. -/
inductive Progress (h : Host) (now : Nanos) (after : Host) : List (RunId × Run.Stage) → Prop
  | idle (hActive : after.active = h.active ∨ after.active = none) (hCount : after.runCount = h.runCount) :
      Progress h now after []
  | launch {provider : Provider} {request : StartRequest} {run : Run}
      (hLaunched : Launched h after provider request run) : Progress h now after [(h.runCount, ⟨run, []⟩)]
  | run {id : RunId} {run : Run} (runOp : Run.Op) (hBefore : h.active = some (id, run))
      (hAfter : after.active = some (id, (run.perform runOp now).1) ∨ after.active = none)
      (hCount : after.runCount = h.runCount) :
      Progress h now after ((run.passage (run.perform runOp now)).map fun stage => (id, stage))

theorem perform_progress (h : Host) (op : Op) (now : Nanos) :
    Progress h now (h.perform op now).1 (h.stages op now) := by
  rcases op_cases h op now with ⟨runOp, id, run, hOp, hActive⟩ | ⟨request, rfl⟩ | ⟨hAbsent, hOther⟩
  · have hSettled := perform_settled hOp hActive
    obtain ⟨active, bubbles, hRest⟩ := hSettled.rest
    rw [stages_run hOp hActive]
    refine .run runOp hActive hSettled.active ?_
    rw [hRest]
    exact applyAll_runCount h _
  · rw [stages_absent (.inr rfl)]
    rcases perform_start_cases h request now with ⟨hNone, hSpared⟩ | ⟨provider, run, -, hSome, hLaunched⟩
    · rw [hNone]
      exact .idle hSpared.active hSpared.runCount
    · rw [hSome]
      exact .launch hLaunched
  · have hSpared := perform_spared hAbsent hOther
    have hOutside : (op.outside h).active = h.active ∧ (op.outside h).runCount = h.runCount := by
      cases op <;> exact ⟨rfl, rfl⟩
    rw [stages_absent hAbsent, launched_other hOther]
    exact .idle (hOutside.1 ▸ hSpared.active) (hSpared.runCount.trans hOutside.2)

end Host

end GuidedTour
