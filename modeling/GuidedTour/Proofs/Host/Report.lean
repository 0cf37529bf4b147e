import GuidedTour.Proofs.Host.Bubbles

/-!
# What an operation writes and says

Outside of a host an operation sets the flags of walkthroughs that were completed, and it says something: it has
warnings, it calls the delegate of a run, and it calls back for bubbles. Both are told here by what the store makes of
each flag and by what each delegate and each callback has to say, one after the other, without the host that carries
them out.

Main results:

* `perform_carries` - the store, the disk and the notices that every operation leaves.
* `perform_heard` - whose texts an operation says: a bubble is heard at a tick only.
* `perform_deed` - an operation that completes a run sets one flag and calls one delegate, and any other operation
  sets none and calls none.
-/

namespace GuidedTour

open Layout Screen Completion Storage

namespace Run

/-- A turn has nothing but warnings outside of the run, unless it finishes the run. -/
theorem Turn.quiet_or_finish {now : Nanos} {r : Run} {demand : Option Demand} {out : Run × Transition × List Effect}
    (h : Turn now r demand out) :
    ((out.1.state = .completed → r.state = .completed) ∧ ∀ e ∈ out.2.2, ∃ w, e = .warn w) ∨
      ∃ i, r.state = .running i ∧ out = (r.finished, .completed, r.farewell) := by
  have hNothing : ∀ e ∈ ([] : List Effect), ∃ w, e = .warn w := List.forall_mem_nil _
  cases h with
  | stay hPlace _ hQuiet => exact .inl ⟨fun hEnd => hPlace.state ▸ hEnd, hQuiet⟩
  | start => exact .inl ⟨RunState.noConfusion, hNothing⟩
  | next => exact .inl ⟨RunState.noConfusion, hNothing⟩
  | finish hState => exact .inr ⟨_, hState, rfl⟩
  | dismiss => exact .inl ⟨RunState.noConfusion, hNothing⟩

end Run

namespace Host

/-! ## Flags and words -/

/-- A store and a disk after the flags of walkthroughs were set, one after the other. -/
def remembering (store : Store) (disk : Disk) : List String → Store × Disk
  | [] => (store, disk)
  | identity :: rest =>
    let written := store.setCompleted disk (completionKey identity) true
    remembering written.store written.disk rest

/-- What is said of an attempt to set a flag. -/
def wordOf : Except StoreError Unit → List Notice
  | .ok _ => []
  | .error _ => [.warning .unwritableFlag]

/-- What is said when a run has these effects: a delegate has its say, and a flag that cannot be set has a warning. -/
def spoken (store : Store) (disk : Disk) : List Effect → List Notice
  | [] => []
  | .warn w :: rest => .warning w :: spoken store disk rest
  | .remember identity :: rest =>
    let written := store.setCompleted disk (completionKey identity) true
    wordOf written.answer ++ spoken written.store written.disk rest
  | .notify delegate :: rest => delegate.notices ++ spoken store disk rest

theorem notices_markCompleted (store : Store) (disk : Disk) (identity : String) :
    (store.markCompleted disk identity true).2.2.map Notice.warning =
      wordOf (store.setCompleted disk (completionKey identity) true).answer := by
  unfold Store.markCompleted
  dsimp only
  cases (store.setCompleted disk (completionKey identity) true).answer <;> rfl

theorem applyAll_eq (h : Host) (effects : List Effect) :
    h.applyAll effects =
      ({ h with
         store := (remembering h.store h.disk (effects.filterMap Effect.remembered?)).1
         disk := (remembering h.store h.disk (effects.filterMap Effect.remembered?)).2 },
        spoken h.store h.disk effects) := by
  -- one effect at a time; the host that the first one leaves differs in its store and its disk at most
  induction effects generalizing h with
  | nil => rfl
  | cons e rest ih =>
    rw [applyAll]
    dsimp only
    rw [ih]
    cases e with
    | warn w => rfl
    | notify delegate => rfl
    | remember identity =>
      rw [spoken, ← notices_markCompleted]
      rfl

/-- Warnings are said as they are, and set no flag. -/
theorem spoken_quiet (store : Store) (disk : Disk) {effects : List Effect} (hQuiet : ∀ e ∈ effects, ∃ w, e = .warn w) :
    effects.filterMap Effect.remembered? = [] ∧
      ∃ warnings : List Warning, spoken store disk effects = warnings.map .warning := by
  induction effects with
  | nil => exact ⟨rfl, [], rfl⟩
  | cons e rest ih =>
    obtain ⟨w, rfl⟩ := hQuiet e List.mem_cons_self
    obtain ⟨hNone, warnings, hRest⟩ := ih fun other hOther => hQuiet other (List.mem_cons_of_mem _ hOther)
    exact ⟨hNone, w :: warnings, congrArg (Notice.warning w :: ·) hRest⟩

theorem texts_warnings (warnings : List Warning) : (warnings.map Notice.warning).filterMap Notice.text? = [] := by
  rw [List.filterMap_map]
  exact List.filterMap_eq_nil_iff.mpr fun _ _ => rfl

theorem texts_word (answer : Except StoreError Unit) : (wordOf answer).filterMap Notice.text? = [] := by
  cases answer <;> rfl

theorem texts_callbacks (called : List (BubbleId × BubbleCallback)) :
    (called.map fun call => Notice.callback call.2.text).filterMap Notice.text? =
      called.map fun call => call.2.text := by
  rw [List.filterMap_map, ← List.filterMap_eq_map]
  rfl

/-- Of all effects only a delegate's say has texts. -/
theorem texts_spoken (store : Store) (disk : Disk) (effects : List Effect) :
    (spoken store disk effects).filterMap Notice.text? =
      (effects.filterMap Effect.told?).flatMap fun delegate => delegate.notices.filterMap Notice.text? := by
  induction effects generalizing store disk with
  | nil => rfl
  | cons e rest ih =>
    cases e with
    | warn w => exact ih store disk
    | remember identity =>
      rw [spoken, List.filterMap_append, texts_word]
      exact ih _ _
    | notify delegate =>
      rw [spoken, List.filterMap_append, ih]
      rfl

/-! ## Every operation -/

/-- What the run asks to be done outside of it during an operation. -/
def wants (h : Host) (op : Op) (now : Nanos) : List Effect :=
  match h.active, op.onRun h now with
  | some (_, run), some runOp => (run.perform runOp now).2.2
  | _, _ => []

/-- What the host itself has to warn of: bubbles that cannot be placed, and at a start a flag that cannot be read. -/
def Op.warnings (op : Op) (h : Host) (now : Nanos) : List Warning :=
  match op with
  | .draw area b => (drawBubbles area h.anchors now h.bubbles b).2.2
  | .start request =>
    match request.provider <|> h.provider with
    | some provider => if h.isActive || request.force then [] else (h.store.hasCompleted provider.identity).2
    | none => []
  | _ => []

theorem wants_run {h : Host} {op : Op} {now : Nanos} {runOp : Run.Op} {id : RunId} {run : Run}
    (hOp : op.onRun h now = some runOp) (hActive : h.active = some (id, run)) :
    h.wants op now = (run.perform runOp now).2.2 := by
  unfold wants
  rw [hActive, hOp]

/-- Nothing is wanted if there is no run, or if the operation does not reach it. -/
theorem wants_absent {h : Host} {op : Op} {now : Nanos} (hAbsent : h.active = none ∨ op.onRun h now = none) :
    h.wants op now = [] := by
  unfold wants
  rcases hAbsent with hNone | hNone
  · rw [hNone]
  · rw [hNone]
    cases h.active <;> rfl

/-- An operation from which no run ever wants anything. -/
theorem wants_quiet {h : Host} {op : Op} {now : Nanos}
    (hQuiet : ∀ runOp, op.onRun h now = some runOp → ∀ run : Run, (run.perform runOp now).2.2 = []) :
    h.wants op now = [] := by
  unfold wants
  split
  · next runOp _ hOp => exact hQuiet runOp hOp _
  · rfl

/-- The effects of an operation are those of the stages that it takes the run through. -/
theorem wants_stages {h : Host} (hSound : ∀ id run, h.active = some (id, run) → run.Sound) (op : Op) (now : Nanos) :
    h.wants op now = (h.stages op now).flatMap (·.2.effects) := by
  rcases op_cases h op now with ⟨runOp, id, run, hOp, hActive⟩ | ⟨request, rfl⟩ | ⟨hAbsent, hOther⟩
  · have hEffects := (Run.passage_carries (Run.perform_turn runOp now (hSound id run hActive))).2
    rw [wants_run hOp hActive, stages_run hOp hActive, List.flatMap_map, hEffects]
  · rw [wants_absent (.inr rfl), stages_absent (.inr rfl)]
    cases Op.launched (.start request) h now <;> rfl
  · rw [wants_absent hAbsent, stages_absent hAbsent, launched_other hOther]
    rfl

/-- What is left when ended runs are released is a run that is on the screen. -/
theorem isSome_reap (h : Host) (now : Nanos) : (h.reap now).active.isSome = h.isActive := by
  show (h.active.filter _).isSome = h.active.any _
  cases h.active with
  | none => rfl
  | some held => cases hShown : held.2.isActive <;> simp [Option.filter_some, hShown]

/-- A call through the handle of a run has the effects of its operation on the run that the handle finds. -/
theorem wants_through {h : Host} {op : Op} {now : Nanos} {id : RunId} {runOp : Run.Op}
    (hOp : op.onRun h now = if h.active.any (·.1 = id) then some runOp else none) :
    h.wants op now = match h.reach id with
      | .found run => (run.perform runOp now).2.2
      | _ => [] := by
  rcases reach_cases h id with ⟨run, hActive, hFound⟩ | ⟨hOther, hGone⟩
  · have hReaches : h.active.any (·.1 = id) = true := by rw [hActive, Option.any_some, decide_eq_true rfl]
    rw [hFound, wants_run (hOp.trans (if_pos hReaches)) hActive]
  · have hNone : op.onRun h now = none := by rw [hOp, hOther, if_neg Bool.false_ne_true]
    rw [hGone, wants_absent (.inr hNone)]

theorem settle_spoken (h : Host) (id : RunId) (run : Run) (effects : List Effect) :
    (h.settle id run effects).2 = spoken h.store h.disk effects := by
  rw [settle, applyAll_eq]

theorem startWith_spoken (h : Host) (provider : Provider) (request : StartRequest) (now : Nanos) :
    (h.startWith provider request now).2.2 =
      (if h.isActive || request.force then [] else (h.store.hasCompleted provider.identity).2).map Notice.warning := by
  unfold startWith
  dsimp only
  rw [isSome_reap]
  cases h.isActive with
  | true => rfl
  | false =>
    have hWarnings : (if request.force then (false, []) else (h.reap now).store.hasCompleted provider.identity).2 =
        if false || request.force then [] else (h.store.hasCompleted provider.identity).2 := by
      cases request.force <;> rfl
    rw [if_neg Bool.false_ne_true, ← hWarnings]
    generalize (if request.force = true then (false, []) else _ : Bool × List Warning) = asked
    by_cases hDone : asked.1 = true
    · rw [if_pos hDone]
    rw [if_neg hDone]
    split <;> rfl

theorem tickRun_spoken (h : Host) (now : Nanos) :
    (h.tickRun now).2 = spoken h.store h.disk (h.wants .tick now) := by
  unfold tickRun wants
  cases h.active with
  | none => rfl
  | some held => exact settle_spoken h held.1 (held.2.tick now).1 _

/-- The host's own warnings come first, and the callbacks of bubbles last. -/
theorem perform_spoken (h : Host) (op : Op) (now : Nanos) :
    (h.perform op now).2 = (op.warnings h now).map .warning ++ spoken h.store h.disk (h.wants op now) ++
      (h.called op now).map fun call => .callback call.2.text := by
  cases op with
  | start request =>
    rw [wants_absent (.inr rfl)]
    show _ = (Op.warnings (.start request) h now).map Notice.warning ++ [] ++ []
    rw [List.append_nil, List.append_nil]
    cases hProvider : request.provider <|> h.provider with
    | none => simp only [perform, start, Op.warnings, hProvider, List.map_nil]
    | some provider =>
      simp only [perform, start, Op.warnings, hProvider]
      exact startWith_spoken h provider request now
  | handle e =>
    show (h.handle e now).2.2 = [] ++ _ ++ []
    rw [List.append_nil, List.nil_append]
    unfold handle wants
    cases h.active with
    | none => rfl
    | some held => exact settle_spoken h held.1 (held.2.handle e now).1 _
  | tick =>
    rw [tick_rings, tickRun_spoken]
    rfl
  | draw area b =>
    show (h.draw area b now).2.2 = (drawBubbles area h.anchors now h.bubbles b).2.2.map .warning ++ _ ++ []
    rw [List.append_nil]
    unfold draw wants
    dsimp only
    cases hActive : h.active with
    | none => exact (List.append_nil _).symm
    | some held =>
      refine congrArg (_ ++ ·) ?_
      exact settle_spoken { h with bubbles := _, active := _ } held.1 _ _
  | step id =>
    have hWants : h.wants (.step id) now = _ := wants_through rfl
    show (h.stepThrough id (h.reach id) now).2.2 = [] ++ _ ++ []
    rw [List.append_nil, List.nil_append, hWants]
    rcases reach_cases h id with ⟨run, -, hFound⟩ | ⟨-, hGone⟩
    · rw [hFound]
      exact settle_spoken h id (run.advance .explicit now).1 _
    · rw [hGone]
      rfl
  | dismiss id =>
    have hWants : h.wants (.dismiss id) now = _ := wants_through rfl
    show (h.dismissThrough id (h.reach id)).2.2 = [] ++ _ ++ []
    rw [List.append_nil, List.nil_append, hWants]
    rcases reach_cases h id with ⟨run, -, hFound⟩ | ⟨-, hGone⟩
    · rw [hFound]
      rfl
    · rw [hGone]
      rfl
  | disappear =>
    rw [wants_quiet fun _ hOp _ => by cases hOp; rfl]
    rfl
  | revise index view =>
    rw [wants_quiet fun _ hOp _ => by cases hOp; rfl]
    rfl
  | _ =>
    rw [wants_absent (.inr rfl)]
    rfl

/-- What others write reaches no run. -/
theorem outside_run {h : Host} {op : Op} {now : Nanos} {runOp : Run.Op} (hOp : op.onRun h now = some runOp) :
    op.outside h = h := by
  cases op with
  | alter => cases hOp
  | _ => rfl

/-- Only the flags that the run wants are set, after what others write. -/
theorem perform_written (h : Host) (op : Op) (now : Nanos) :
    ((h.perform op now).1.store, (h.perform op now).1.disk) =
      remembering (op.outside h).store (op.outside h).disk ((h.wants op now).filterMap Effect.remembered?) := by
  rcases op_cases h op now with ⟨runOp, id, run, hOp, hActive⟩ | ⟨request, rfl⟩ | ⟨hAbsent, hOther⟩
  · obtain ⟨active, bubbles, hRest⟩ := (perform_settled hOp hActive).rest
    rw [outside_run hOp, wants_run hOp hActive, hRest, applyAll_eq]
  · rw [wants_absent (.inr rfl)]
    rcases perform_start_cases h request now with ⟨-, hSpared⟩ | ⟨provider, run, -, -, hLaunched⟩
    · exact Prod.ext hSpared.store hSpared.disk
    · exact Prod.ext hLaunched.store hLaunched.disk
  · have hSpared := perform_spared hAbsent hOther
    rw [wants_absent hAbsent]
    exact Prod.ext hSpared.store hSpared.disk

theorem perform_store (h : Host) (op : Op) (now : Nanos) : (h.perform op now).1.store =
    (remembering (op.outside h).store (op.outside h).disk ((h.wants op now).filterMap Effect.remembered?)).1 :=
  congrArg Prod.fst (perform_written h op now)

/-- What an operation does outside of the host when its run has these effects, and nothing else. -/
structure Carries (h : Host) (op : Op) (now : Nanos) (effects : List Effect) : Prop where
  /-- Flags are set in the store as others have left it, in order, one for each effect that remembers. -/
  written : ((h.perform op now).1.store, (h.perform op now).1.disk) =
    remembering (op.outside h).store (op.outside h).disk (effects.filterMap Effect.remembered?)
  /-- The host's own warnings come first, then what the effects say, in order, and then the callbacks of bubbles. -/
  said : (h.perform op now).2 = (op.warnings h now).map .warning ++
    spoken (op.outside h).store (op.outside h).disk effects ++ (h.called op now).map fun call => .callback call.2.text

theorem perform_carries (h : Host) (op : Op) (now : Nanos) : Carries h op now (h.wants op now) := by
  refine ⟨perform_written h op now, ?_⟩
  rw [perform_spoken]
  cases op with
  | alter store disk => rw [wants_absent (.inr rfl)]; rfl
  | _ => rfl

/-- Whose texts are said at an operation: those of the delegates that are told, and those of bubbles. -/
structure Heard (h : Host) (op : Op) (now : Nanos) : Prop where
  texts : (h.perform op now).2.filterMap Notice.text? =
    (((h.wants op now).filterMap Effect.told?).flatMap fun delegate => delegate.notices.filterMap Notice.text?) ++
      (h.called op now).map fun call => call.2.text
  /-- No bubble calls back but at a tick. -/
  others : op ≠ .tick → (h.perform op now).2.filterMap Notice.text? =
    ((h.wants op now).filterMap Effect.told?).flatMap fun delegate => delegate.notices.filterMap Notice.text?

theorem perform_heard (h : Host) (op : Op) (now : Nanos) : Heard h op now := by
  have hTexts : (h.perform op now).2.filterMap Notice.text? =
      (((h.wants op now).filterMap Effect.told?).flatMap fun delegate => delegate.notices.filterMap Notice.text?) ++
        (h.called op now).map fun call => call.2.text := by
    rw [perform_spoken, List.filterMap_append, List.filterMap_append, texts_warnings, texts_spoken, texts_callbacks,
      List.nil_append]
  refine ⟨hTexts, fun hOther => ?_⟩
  have hNone : h.called op now = [] := by
    cases op with
    | tick => exact absurd rfl hOther
    | _ => rfl
  rw [hTexts, hNone, List.map_nil, List.append_nil]

/-! ## Completions -/

/-- An operation completes the run that the host holds. -/
structure Completes (h : Host) (op : Op) (now : Nanos) (id : RunId) (run : Run) (identity : String) : Prop where
  active  : h.active = some (id, run)
  shown   : run.isActive = true
  named   : run.identity = some identity
  /-- The run goes through the stages of a completion. -/
  stages  : h.stages op now = ({ run with due := none } : Run).completion.map fun stage => (id, stage)
  /-- The flag of its walkthrough is set, once. -/
  written : ((h.perform op now).1.store, (h.perform op now).1.disk) =
    ((h.store.setCompleted h.disk (completionKey identity) true).store,
      (h.store.setCompleted h.disk (completionKey identity) true).disk)
  /-- Then its delegate has its say, once. -/
  said    : (h.perform op now).2 = (op.warnings h now).map .warning ++
    (wordOf (h.store.setCompleted h.disk (completionKey identity) true).answer ++
      run.delegate.elim [] (·.notices)) ++ (h.called op now).map fun call => .callback call.2.text

/-- An operation completes no run: it sets no flag, and no delegate has its say. -/
structure Unfinished (h : Host) (op : Op) (now : Nanos) : Prop where
  stages  : ∀ entry ∈ h.stages op now, entry.2.IsQuiet
  written : ((h.perform op now).1.store, (h.perform op now).1.disk) = ((op.outside h).store, (op.outside h).disk)
  said    : ∃ warnings : List Warning, (h.perform op now).2 =
    warnings.map .warning ++ (h.called op now).map fun call => .callback call.2.text

/-- Effects that are all warnings leave the store and the disk. -/
theorem Unfinished.of_quiet {h : Host} {op : Op} {now : Nanos} (hStages : ∀ entry ∈ h.stages op now, entry.2.IsQuiet)
    (hQuiet : ∀ e ∈ h.wants op now, ∃ w, e = .warn w) : Unfinished h op now := by
  have hCarries := perform_carries h op now
  obtain ⟨hNone, warnings, hSpoken⟩ := spoken_quiet (op.outside h).store (op.outside h).disk hQuiet
  refine ⟨hStages, ?_, op.warnings h now ++ warnings, ?_⟩
  · rw [hCarries.written, hNone]
    rfl
  · rw [hCarries.said, hSpoken, List.map_append]

theorem Completes.of_farewell {h : Host} {op : Op} {now : Nanos} {id : RunId} {run : Run} {identity : String}
    (hActive : h.active = some (id, run)) (hShown : run.isActive = true) (hIdentity : run.identity = some identity)
    (hStages : h.stages op now = ({ run with due := none } : Run).completion.map fun stage => (id, stage))
    (hInside : op.outside h = h) (hEffects : h.wants op now = run.farewell) : Completes h op now id run identity := by
  have hCarries := perform_carries h op now
  rw [hEffects, Run.farewell, hIdentity] at hCarries
  refine ⟨hActive, hShown, hIdentity, hStages, ?_, ?_⟩
  · rw [hCarries.written, hInside]
    cases run.delegate <;> rfl
  · rw [hCarries.said, hInside]
    cases run.delegate <;> simp [spoken]

/-- Every operation completes the run that the host holds, with all that belongs to it, or no run at all. -/
theorem perform_deed {h : Host} (hSound : ∀ id run, h.active = some (id, run) → run.Sound)
    (hNamed : ∀ id run, h.active = some (id, run) → ∃ identity, run.identity = some identity) (op : Op)
    (now : Nanos) : (∃ id run identity, Completes h op now id run identity) ∨ Unfinished h op now := by
  rcases op_cases h op now with ⟨runOp, id, run, hOp, hActive⟩ | ⟨request, rfl⟩ | ⟨hAbsent, hOther⟩
  · have hTurn := Run.perform_turn runOp now (hSound id run hActive)
    have hStages := stages_run hOp hActive
    have hEffects := wants_run hOp hActive
    rcases hTurn.quiet_or_finish with ⟨hSingle, hQuiet⟩ | ⟨i, hState, hOut⟩
    · rw [Run.passage_single hSingle] at hStages
      refine .inr (.of_quiet (fun entry hEntry => ?_) (hEffects ▸ hQuiet))
      rw [hStages] at hEntry
      cases List.mem_singleton.mp hEntry
      exact hQuiet
    · -- the turn that finishes a run is the only one with more than warnings
      obtain ⟨identity, hIdentity⟩ := hNamed id run hActive
      have hShown : run.isActive = true := by rw [Run.isActive, hState]; rfl
      rw [hOut] at hStages hEffects
      rw [Run.passage_finish hState] at hStages
      exact .inl ⟨id, run, identity, .of_farewell hActive hShown hIdentity hStages (outside_run hOp) hEffects⟩
  · -- a run that is launched has shown its first step, and done nothing else
    refine .inr (.of_quiet (fun entry hEntry => ?_) ?_)
    · rw [stages_absent (.inr rfl)] at hEntry
      obtain ⟨launched, -, rfl⟩ := List.mem_map.mp hEntry
      exact Run.Stage.isQuiet_nil launched.2
    · rw [wants_absent (.inr rfl)]
      exact List.forall_mem_nil _
  · refine .inr (.of_quiet (fun entry hEntry => ?_) ?_)
    · rw [stages_absent hAbsent, launched_other hOther] at hEntry
      exact absurd hEntry List.not_mem_nil
    · rw [wants_absent hAbsent]
      exact List.forall_mem_nil _

end Host

end GuidedTour
