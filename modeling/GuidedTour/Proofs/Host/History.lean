import GuidedTour.Proofs.Host.Report

/-!
# Histories of a host

A history is a host together with a journal of the stages that its runs went through, while operations come in any
order and at any readings of the clock. The journal under the number of one run is the log of that run's life, from
its launch on: a run that is released, dismissed or gone with its screen leaves a log that never grows into anything
else.

Main results:

* `step_kept` - every operation keeps the journal a collection of lives, one for each run that was ever launched.
* `Kept.carries` - the journal says what was really written and said.
* `history_account` - a run is remembered once and its delegate told once if it was completed, in this order and with
  its views gone in between; otherwise neither ever happens.
-/

namespace GuidedTour

open Layout Screen Completion Storage

/-- A host, and the stages that its runs went through so far, each under the number of its run. -/
structure History where
  host    : Host
  journal : List (RunId × Run.Stage) := []

namespace History

open Host (Op)

/-- The history of a host that has done nothing yet. -/
def opening (store : Store) (disk : Disk) (anchors : Anchors) (provider : Option Provider) : History :=
  { host := { store := store, disk := disk, anchors := anchors, provider := provider } }

/-- Carries out an operation at a reading of the clock, and enters its stages. -/
def step (s : History) (moment : Op × Nanos) : History :=
  { host := (s.host.perform moment.1 moment.2).1
    journal := s.journal ++ s.host.stages moment.1 moment.2 }

/-- The history after a sequence of operations. -/
def after (s : History) (moments : List (Op × Nanos)) : History := moments.foldl step s

/-- The stages that one run went through. -/
def log (s : History) (id : RunId) : List Run.Stage := (s.journal.filter (·.1 = id)).map (·.2)

theorem after_induction {P : History → Prop} (hStep : ∀ s moment, P s → P (s.step moment)) {s : History}
    (hStart : P s) (moments : List (Op × Nanos)) : P (s.after moments) := by
  induction moments generalizing s with
  | nil => exact hStart
  | cons moment rest ih => exact ih (hStep s moment hStart)

/-! ## Logs -/

theorem log_step (s : History) (moment : Op × Nanos) (id : RunId) :
    (s.step moment).log id =
      s.log id ++ ((s.host.stages moment.1 moment.2).filter (·.1 = id)).map (·.2) := by
  unfold log step
  rw [List.filter_append, List.map_append]

theorem filter_stages (id other : RunId) (stages : List Run.Stage) :
    ((stages.map fun stage => (other, stage)).filter (·.1 = id)).map (·.2) =
      if other = id then stages else [] := by
  split
  · next hSame =>
    rw [List.filter_eq_self.mpr]
    · rw [List.map_map]
      exact List.map_id _
    · intro entry hEntry
      obtain ⟨stage, -, rfl⟩ := List.mem_map.mp hEntry
      exact decide_eq_true hSame
  · next hOther =>
    rw [List.filter_eq_nil_iff.mpr]
    · rfl
    · intro entry hEntry
      obtain ⟨stage, -, rfl⟩ := List.mem_map.mp hEntry
      simpa using hOther

theorem log_after (s : History) (moments : List (Op × Nanos)) (id : RunId) : s.log id <+: (s.after moments).log id := by
  refine after_induction (P := fun t => s.log id <+: t.log id) ?_ List.prefix_rfl moments
  intro t moment hPrefix
  rw [log_step]
  exact hPrefix.trans (List.prefix_append _ _)

/-! ## The invariant -/

/-- The log of a run from its launch on, and the run as it is now. -/
structure Story (first : Run) (log : List Run.Stage) (run : Run) : Prop where
  life     : Run.Life first log run
  sound    : first.Sound
  shown    : ∃ i, first.state = .running i
  identity : ∃ identity, first.identity = some identity

/-- Every run that was launched has its story, which leads to the run that the host holds if it still holds it; no
other run has entries. -/
structure Kept (s : History) : Prop where
  told   : ∀ id < s.host.runCount, ∃ first run, Story first (s.log id) run ∧
    ∀ held, s.host.active = some (id, held) → held = run
  held   : ∀ id run, s.host.active = some (id, run) → id < s.host.runCount
  untold : ∀ id, s.host.runCount ≤ id → s.log id = []

theorem opening_kept (store : Store) (disk : Disk) (anchors : Anchors) (provider : Option Provider) :
    Kept (opening store disk anchors provider) where
  told := fun id hId => absurd hId (Nat.not_lt_zero id)
  held := by
    intro id run hActive
    cases hActive
  untold := fun _ _ => rfl

theorem Kept.story {s : History} (h : Kept s) {id : RunId} {run : Run} (hActive : s.host.active = some (id, run)) :
    ∃ first, Story first (s.log id) run := by
  obtain ⟨first, last, hStory, hHeld⟩ := h.told id (h.held id run hActive)
  rw [hHeld run hActive]
  exact ⟨first, hStory⟩

theorem Kept.sound {s : History} (h : Kept s) {id : RunId} {run : Run} (hActive : s.host.active = some (id, run)) :
    run.Sound := by
  obtain ⟨first, hStory⟩ := h.story hActive
  exact (hStory.life.ending hStory.sound hStory.shown).2.1

section Keeping

variable {s t : History}

/-- Without entries the stories stay; the host may have released its run. -/
theorem Kept.idle (h : Kept s) (hLog : ∀ id, t.log id = s.log id)
    (hActive : t.host.active = s.host.active ∨ t.host.active = none)
    (hCount : t.host.runCount = s.host.runCount) : Kept t := by
  have hHeld : ∀ id run, t.host.active = some (id, run) → s.host.active = some (id, run) := by
    intro id run hAfter
    rcases hActive with hKept | hGone
    · rwa [hKept] at hAfter
    · rw [hGone] at hAfter
      cases hAfter
  refine ⟨fun id hId => ?_, fun id run hAfter => ?_, fun id hId => ?_⟩
  · rw [hCount] at hId
    obtain ⟨first, run, hStory, hLast⟩ := h.told id hId
    rw [hLog]
    exact ⟨first, run, hStory, fun held hAfter => hLast held (hHeld id held hAfter)⟩
  · rw [hCount]
    exact h.held id run (hHeld id run hAfter)
  · rw [hCount] at hId
    rw [hLog]
    exact h.untold id hId

/-- The story of a run begins with its launch; the runs before it keep theirs. -/
theorem Kept.launch {provider : Provider} {request : StartRequest} {run : Run} (h : Kept s)
    (hLaunched : s.host.Launched t.host provider request run)
    (hNew : t.log s.host.runCount = [⟨run, []⟩])
    (hOld : ∀ id, id ≠ s.host.runCount → t.log id = s.log id) : Kept t := by
  have hActive := hLaunched.active
  have hCount := hLaunched.runCount
  refine ⟨fun id hId => ?_, fun id held hAfter => ?_, fun id hId => ?_⟩
  · -- the new run is the one that the host holds, so nothing is said of the others but their past
    by_cases hThis : id = s.host.runCount
    · subst hThis
      rw [hNew, hActive]
      refine ⟨run, run, ⟨.begun, hLaunched.sound, hLaunched.shown, _, hLaunched.identity⟩, ?_⟩
      rintro held hSame
      cases hSame
      rfl
    · obtain ⟨first, last, hStory, -⟩ := h.told id (by omega)
      rw [hOld id hThis, hActive]
      refine ⟨first, last, hStory, ?_⟩
      rintro held hSame
      cases hSame
      exact absurd rfl hThis
  · rw [hActive] at hAfter
    cases hAfter
    rw [hCount]
    exact Nat.lt_succ_self _
  · rw [hOld id (by omega)]
    exact h.untold id (by omega)

/-- The story of the run that the host holds goes on, whether the host then still holds it or not. -/
theorem Kept.run {this : RunId} {run : Run} {now : Nanos} (h : Kept s) (runOp : Run.Op)
    (hBefore : s.host.active = some (this, run))
    (hAfter : t.host.active = some (this, (run.perform runOp now).1) ∨ t.host.active = none)
    (hCount : t.host.runCount = s.host.runCount)
    (hEntries : ∀ id, t.log id = s.log id ++ if this = id then run.passage (run.perform runOp now) else []) :
    Kept t := by
  have hThis := h.held this run hBefore
  have hHeld : ∀ id held, t.host.active = some (id, held) → id = this ∧ held = (run.perform runOp now).1 := by
    intro id held hActive
    rcases hAfter with hKept | hGone
    · rw [hKept] at hActive
      cases hActive
      exact ⟨rfl, rfl⟩
    · rw [hGone] at hActive
      cases hActive
  refine ⟨fun id hId => ?_, fun id held hActive => ?_, fun id hId => ?_⟩
  · by_cases hSame : this = id
    · subst hSame
      obtain ⟨first, hStory⟩ := h.story hBefore
      rw [hEntries, if_pos rfl]
      exact ⟨first, _, ⟨hStory.life.turn runOp now, hStory.sound, hStory.shown, hStory.identity⟩,
        fun held hActive => (hHeld this held hActive).2⟩
    · rw [hCount] at hId
      obtain ⟨first, last, hStory, -⟩ := h.told id hId
      rw [hEntries, if_neg hSame, List.append_nil]
      exact ⟨first, last, hStory, fun held hActive => absurd (hHeld id held hActive).1.symm hSame⟩
  · rw [hCount, (hHeld id held hActive).1]
    exact hThis
  · rw [hCount] at hId
    rw [hEntries, if_neg (Nat.ne_of_lt (Nat.lt_of_lt_of_le hThis hId)), h.untold id hId]
    rfl

end Keeping

/-- One operation goes on with one story at most. -/
theorem step_kept (s : History) (moment : Op × Nanos) (h : Kept s) : Kept (s.step moment) := by
  -- an operation leaves the run alone, launches one, or makes one take a turn
  have hProgress := Host.perform_progress s.host moment.1 moment.2
  have hLog := log_step s moment
  generalize s.host.stages moment.1 moment.2 = stages at hProgress hLog
  have hHost : (s.step moment).host = (s.host.perform moment.1 moment.2).1 := rfl
  rw [← hHost] at hProgress
  cases hProgress with
  | idle hActive hCount => exact h.idle (fun id => (hLog id).trans (List.append_nil _)) hActive hCount
  | launch hLaunched =>
    refine h.launch hLaunched ?_ fun id hOther => ?_
    · rw [hLog, h.untold _ (Nat.le_refl _)]
      simp
    · rw [hLog]
      simp [hOther.symm]
  | run runOp hBefore hAfter hCount =>
    refine h.run runOp hBefore hAfter hCount fun id => ?_
    rw [hLog, filter_stages]

theorem after_kept {s : History} (h : Kept s) (moments : List (Op × Nanos)) : Kept (s.after moments) :=
  after_induction step_kept h moments

/-! ## What becomes of each run -/

/-- A log begins with the launch and ends with the run as it is. -/
theorem life_ends {first run : Run} {log : List Run.Stage} (h : Run.Life first log run) (hSound : first.Sound)
    (hShown : ∃ i, first.state = .running i) :
    log.head? = some ⟨first, []⟩ ∧ log.getLast?.map (·.run) = some run := by
  induction h with
  | begun => exact ⟨rfl, rfl⟩
  | @turn log run op now hLife ih =>
    obtain ⟨hHead, hLast⟩ := ih
    have hTurn := Run.perform_turn op now (hLife.ending hSound hShown).2.1
    have hPassage := (Run.passage_carries hTurn).1
    -- every turn enters something, the last of it the run that it leaves
    refine ⟨?_, ?_⟩
    · rw [List.head?_append, hHead]
      rfl
    · rw [List.getLast?_append]
      cases hEnd : (run.passage (run.perform op now)).getLast? with
      | none => rw [hEnd] at hPassage; cases hPassage
      | some stage => rwa [hEnd] at hPassage

/-- What a history says of one of its runs. -/
structure Account (s : History) (id : RunId) : Prop where
  /-- From its launch on the run is remembered once and its delegate told once if it is completed, and never
  otherwise. -/
  finale : ∃ first identity, (s.log id).head? = some ⟨first, []⟩ ∧ first.identity = some identity ∧
    Run.Finale identity first.delegate (s.log id)
  /-- What a handle finds is the run as it was entered last. -/
  found : ∀ run, s.host.reach id = .found run → (s.log id).getLast?.map (·.run) = some run
  /-- A run that was dismissed is neither remembered nor announced, whatever is asked of it afterwards. -/
  dismissed : ∀ run more, s.host.reach id = .found run → run.state = .dismissed →
    Run.written ((s.after more).log id) = [] ∧ Run.told ((s.after more).log id) = []
  /-- Nor is a run whose screen went away while it was shown. -/
  disappeared : ∀ run now more, s.host.reach id = .found run → run.isActive = true →
    Run.written (((s.step (.disappear, now)).after more).log id) = [] ∧
      Run.told (((s.step (.disappear, now)).after more).log id) = []

theorem Kept.finale {s : History} (h : Kept s) {id : RunId} (hId : id < s.host.runCount) :
    ∃ first identity, (s.log id).head? = some ⟨first, []⟩ ∧ first.identity = some identity ∧
      Run.Finale identity first.delegate (s.log id) := by
  obtain ⟨first, run, hStory, -⟩ := h.told id hId
  obtain ⟨identity, hIdentity⟩ := hStory.identity
  exact ⟨first, identity, (life_ends hStory.life hStory.sound hStory.shown).1, hIdentity,
    hStory.life.finale hStory.sound hStory.shown hIdentity⟩

/-- A run with a dismissal in its log is never remembered nor announced. -/
theorem Kept.never {s : History} (h : Kept s) {id : RunId}
    (hGone : ∃ stage ∈ s.log id, stage.run.state = .dismissed) :
    Run.written (s.log id) = [] ∧ Run.told (s.log id) = [] := by
  have hId : id < s.host.runCount := by
    obtain ⟨stage, hStage, -⟩ := hGone
    by_contra hLate
    rw [h.untold id (Nat.le_of_not_lt hLate)] at hStage
    exact absurd hStage List.not_mem_nil
  obtain ⟨first, identity, -, -, hFinale⟩ := h.finale hId
  have hNever := hFinale.dismissed hGone
  refine ⟨?_, ?_⟩
  · rw [hFinale.written, hNever]
    rfl
  · rw [hFinale.told, hNever]
    rfl

theorem active_of_found {h : Host} {id : RunId} {run : Run} (hFound : h.reach id = .found run) :
    h.active = some (id, run) := by
  rcases Host.reach_cases h id with ⟨held, hActive, hReach⟩ | ⟨-, hReach⟩
  · rw [hReach] at hFound
    cases hFound
    exact hActive
  · rw [hReach] at hFound
    cases hFound

theorem disappear_log {s : History} {id : RunId} {run : Run} (now : Nanos) (hActive : s.host.active = some (id, run))
    (hShown : run.isActive = true) : ⟨run.dropped, []⟩ ∈ (s.step (.disappear, now)).log id := by
  have hOut : run.perform .dismiss now = (run.dropped, .ignored, []) := by
    unfold Run.perform Run.dismiss
    rw [if_pos hShown]
    rfl
  have hStages : s.host.stages .disappear now = [(id, ⟨run.dropped, []⟩)] := by
    unfold Host.stages
    rw [hActive]
    show (run.passage (run.perform .dismiss now)).map _ = _
    rw [hOut, Run.passage_single RunState.noConfusion]
    rfl
  rw [log_step, hStages]
  simp

theorem Kept.account {s : History} (h : Kept s) {id : RunId} (hId : id < s.host.runCount) : Account s id where
  finale := h.finale hId
  found := by
    intro run hFound
    obtain ⟨first, hStory⟩ := h.story (active_of_found hFound)
    exact (life_ends hStory.life hStory.sound hStory.shown).2
  dismissed := by
    intro run more hFound hState
    obtain ⟨first, hStory⟩ := h.story (active_of_found hFound)
    have hLast := (life_ends hStory.life hStory.sound hStory.shown).2
    -- the entry of the dismissal stays in the log
    obtain ⟨stage, hStage, rfl⟩ := Option.map_eq_some_iff.mp hLast
    have hEntry := (log_after s more id).subset (List.mem_of_getLast? hStage)
    exact (after_kept h more).never ⟨stage, hEntry, hState⟩
  disappeared := by
    intro run now more hFound hShown
    have hEntry := disappear_log now (active_of_found hFound) hShown
    have hLater := (log_after (s.step (.disappear, now)) more id).subset hEntry
    exact (after_kept (step_kept s _ h) more).never ⟨_, hLater, rfl⟩

theorem Kept.named {s : History} (h : Kept s) {id : RunId} {run : Run} (hActive : s.host.active = some (id, run)) :
    ∃ identity, run.identity = some identity := by
  obtain ⟨first, hStory⟩ := h.story hActive
  obtain ⟨identity, hIdentity⟩ := hStory.identity
  exact ⟨identity, (hStory.life.ending hStory.sound hStory.shown).2.2.identity.trans hIdentity⟩

theorem Kept.carries {s : History} (h : Kept s) (op : Op) (now : Nanos) :
    Host.Carries s.host op now ((s.host.stages op now).flatMap (·.2.effects)) := by
  rw [← Host.wants_stages (fun _ _ => h.sound) op now]
  exact Host.perform_carries s.host op now

theorem launched_as_asked {h : Host} (request : StartRequest) (now : Nanos) (id : RunId) (run : Run)
    (hLaunched : Op.launched (.start request) h now = some (id, run)) :
    run.delegate = request.delegate ∧ ∃ provider, (request.provider <|> h.provider) = some provider ∧
      run.identity = some provider.identity := by
  rcases Host.perform_start_cases h request now with ⟨hNone, -⟩ | ⟨provider, other, hProvider, hSome, hAsked⟩
  · rw [hNone] at hLaunched
    cases hLaunched
  · rw [hSome] at hLaunched
    cases hLaunched
    exact ⟨hAsked.delegate, provider, hProvider, hAsked.identity⟩

/-- What a history says of all runs, and what the next operation does outside of the host. -/
structure Accounted (s : History) : Prop where
  runs : ∀ id < s.host.runCount, Account s id
  /-- Nothing is entered for a run that was never launched. -/
  others : ∀ id, s.host.runCount ≤ id → s.log id = []
  /-- A run is launched under the identity of its provider and with the delegate of its request. -/
  launched : ∀ request now id run, Op.launched (.start request) s.host now = some (id, run) →
    run.delegate = request.delegate ∧ ∃ provider, (request.provider <|> s.host.provider) = some provider ∧
      run.identity = some provider.identity
  /-- The store, the disk and the notices that an operation leaves are those of the stages that it enters. -/
  outside : ∀ op now, Host.Carries s.host op now ((s.host.stages op now).flatMap (·.2.effects))
  /-- So an operation that completes a run sets the flag of its walkthrough once and then lets its delegate speak once;
  any other operation, on a run that has ended among them, sets no flag and lets no delegate speak. -/
  deeds : ∀ op now, (∃ id run identity, Host.Completes s.host op now id run identity) ∨ Host.Unfinished s.host op now

/--
**A run's end.** Whatever sequence of operations a host goes through, at any readings of the clock, every run it
ever launched has its account: it is remembered once and its delegate told once if it was completed, in this order
and with its views gone in between, and otherwise neither ever happens. What the store, the disk and the notices show of
an operation is just that: the one that completes a run sets its flag and lets its delegate speak, and no other does
either.
-/
theorem history_account (store : Store) (disk : Disk) (anchors : Anchors) (provider : Option Provider)
    (moments : List (Op × Nanos)) : Accounted ((opening store disk anchors provider).after moments) := by
  have h := after_kept (opening_kept store disk anchors provider) moments
  exact
    { runs := fun id hId => h.account hId
      others := h.untold
      launched := launched_as_asked
      outside := fun op now => h.carries op now
      deeds := Host.perform_deed (fun _ _ => h.sound) fun _ _ => h.named }

/-- A run that is completed through its handle is remembered once, though it is asked to go on twice. -/
example :
    let request : StartRequest := { provider := some ⟨"tour", [.centered default .zero]⟩ }
    let s := (opening (.memory .empty) .fresh .empty none).after
      [(.start request, 0), (.step 0, 1), (.step 0, 2), (.tick, 3)]
    Run.written (s.log 0) = ["tour"] := by decide

end History

end GuidedTour
