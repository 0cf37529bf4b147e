import GuidedTour.Proofs.Host.Lifetime

/-!
# A store that refuses every call

The flag of a walkthrough is asked for once, before a run begins, and set once, when the run has come to its end and its
views are still there. A host whose store refuses both goes on as if nothing had been asked: two hosts that differ in
nothing but the store, one empty and in memory, the other refusing, answer everything alike and stay alike, as long as
nobody asks for a walkthrough again that the first one remembers. All that tells them apart is what they have to say of
the calls.

Main results:

* `applyAll_alike` - what a run wants is done on both hosts, or refused on one of them.
* `perform_unmoved` - one operation.
* `Fresh.always_of_once` - a walkthrough that is asked for once is none that an empty store remembers.
* `refusal_unseen` - any operations.
-/

namespace GuidedTour

open Layout Screen Completion Storage

/-! ## Calls of the store -/

/-- A call that a host makes of its store for a walkthrough. -/
inductive StoreCall where
  | read (identity : String)
  | write (identity : String)
  deriving DecidableEq

/-- What is reported of a call that is refused. -/
def StoreCall.refusal : StoreCall → Notice
  | .read _ => .warning .unreadableFlag
  | .write _ => .warning .unwritableFlag

/-- What comes up while an operation is carried out, in order: calls of the store, and what there is to say. -/
abbrev Happenings := List (StoreCall ⊕ Notice)

namespace Happenings

/-- The calls of the store. -/
def calls (log : Happenings) : List StoreCall := log.filterMap Sum.getLeft?

/-- What is said where all calls are served. -/
def served (log : Happenings) : List Notice := log.filterMap Sum.getRight?

/-- What is said where all calls are refused: one warning for each of them, and the rest as before. -/
def refused (log : Happenings) : List Notice := log.map (Sum.elim StoreCall.refusal id)

variable (log log' : Happenings) (notices : List Notice)

theorem calls_append : calls (log ++ log') = log.calls ++ log'.calls := List.filterMap_append ..

theorem served_append : served (log ++ log') = log.served ++ log'.served := List.filterMap_append ..

theorem refused_append : refused (log ++ log') = log.refused ++ log'.refused := List.map_append ..

/-- Nothing is asked of the store. -/
def said (notices : List Notice) : Happenings := notices.map .inr

theorem calls_said : (said notices).calls = [] := by
  rw [calls, said, List.filterMap_map]
  exact List.filterMap_none ..

theorem served_said : (said notices).served = notices := by
  rw [served, said, List.filterMap_map]
  exact List.filterMap_some ..

theorem refused_said : (said notices).refused = notices := by
  rw [refused, said, List.map_map]
  exact List.map_id ..

end Happenings

open Happenings (said)

/-- What comes up when a run's effect is carried out. -/
def Effect.happenings : Effect → Happenings
  | .warn w => said [.warning w]
  | .remember identity => [.inl (.write identity)]
  | .notify d => said d.notices

/-- The call of the store that an effect asks for. -/
def Effect.call? : Effect → Option StoreCall
  | .remember identity => some (.write identity)
  | .warn _ | .notify _ => none

theorem calls_happenings (effects : List Effect) :
    Happenings.calls (effects.flatMap Effect.happenings) = effects.filterMap Effect.call? := by
  induction effects with
  | nil => rfl
  | cons e rest ih =>
    rw [List.flatMap_cons, Happenings.calls_append, ih]
    cases e with
    | warn w => rfl
    | remember identity => rfl
    | notify d =>
      show (said d.notices).calls ++ _ = _
      rw [Happenings.calls_said]
      rfl

namespace Host

/-- The calls that an operation makes of the store: a walkthrough's flag is read before it is started, unless one runs
or the request does not care, and written when its run has come to its end. -/
def calls (h : Host) (op : Op) (now : Nanos) : List StoreCall :=
  match op with
  | .start request =>
    match request.provider <|> h.provider with
    | some provider =>
      if (h.reap now).active.isNone && !request.force then [.read provider.identity] else []
    | none => []
  | _ => (h.wants op now).filterMap Effect.call?

/-- What an operation answers to whoever asked for it. -/
inductive Reply where
  | none
  | started (answer : Except StartError (Option RunId))
  | taken (isTaken : Bool)
  | stepped (transition : Transition)
  | dismissed (isDismissed : Bool)
  | shown (id : BubbleId)
  | picture (b : Buffer)

/-- The answer to an operation. -/
def reply (h : Host) (op : Op) (now : Nanos) : Reply :=
  match op with
  | .start request => .started ((h.start request now).map (·.2.1))
  | .handle e => .taken (h.handle e now).2.1
  | .draw area b => .picture (h.draw area b now).2.1
  | .step id => .stepped (h.stepThrough id (h.reach id) now).2.1
  | .dismiss id => .dismissed (h.dismissThrough id (h.reach id)).2.1
  | .showBubble own options => .shown (h.showBubble own options now).2
  | _ => .none

/-! ## Two hosts -/

/-- The host with a store that refuses every call. -/
def refusing (h : Host) : Host := { h with store := .refusing }

/-- What one operation makes of a host with a store in memory, and of the one with a store that refuses every call. -/
structure Alike (log : Happenings) (out out' : Host × List Notice) : Prop where
  memory  : ∃ flags, out.1.store = .memory flags
  /-- Apart from the store they are the same host. -/
  host    : out'.1 = out.1.refusing
  /-- Of calls that are served there is nothing to say. -/
  served  : out.2 = log.served
  /-- A call that is refused is reported where it was made, and what comes afterwards is not left out. -/
  refused : out'.2 = log.refused

section Alike

variable {h : Host} {flags : Flags}

theorem Alike.said {h : Host} {flags : Flags} (hStore : h.store = .memory flags) (notices : List Notice) :
    Alike (said notices) (h, notices) (h.refusing, notices) :=
  ⟨⟨flags, hStore⟩, rfl, (Happenings.served_said notices).symm, (Happenings.refused_said notices).symm⟩

/-- Setting a flag goes well in memory, and is refused otherwise. -/
theorem apply_alike (hStore : h.store = .memory flags) (e : Effect) :
    Alike e.happenings (h.apply e) (h.refusing.apply e) := by
  cases e with
  | warn w => exact .said hStore _
  | notify d => exact .said hStore _
  | remember identity =>
    obtain ⟨_, disk, _, _, _, _, _, _⟩ := h
    obtain rfl := hStore
    exact ⟨⟨_, rfl⟩, rfl, rfl, rfl⟩

theorem applyAll_alike (hStore : h.store = .memory flags) (effects : List Effect) :
    Alike (effects.flatMap Effect.happenings) (h.applyAll effects) (h.refusing.applyAll effects) := by
  -- on the effects; each one finds the hosts alike, since a refused call leaves the host as it is
  induction effects generalizing h flags with
  | nil => exact ⟨⟨flags, hStore⟩, rfl, rfl, rfl⟩
  | cons e rest ih =>
    obtain ⟨⟨flags', hNext⟩, hHost, hServed, hRefused⟩ := apply_alike hStore e
    have hRest := ih hNext
    rw [← hHost] at hRest
    rw [List.flatMap_cons]
    refine ⟨hRest.memory, hRest.host, ?_, ?_⟩
    · rw [Happenings.served_append, ← hServed, ← hRest.served]
      rfl
    · rw [Happenings.refused_append, ← hRefused, ← hRest.refused]
      rfl

theorem settle_alike (hStore : h.store = .memory flags) (id : RunId) (run : Run) (effects : List Effect) :
    Alike (effects.flatMap Effect.happenings) (h.settle id run effects) (h.refusing.settle id run effects) := by
  have hActive : ({ h with active := some (id, run) } : Host).store = .memory flags := hStore
  exact applyAll_alike hActive effects

/-- What is done with a host afterwards and does not concern the store. -/
theorem Alike.andThen {log : Happenings} {out out' : Host × List Notice} (hAlike : Alike log out out') {g : Host → Host}
    (hStore : ∀ h, (g h).store = h.store) (hRefusing : ∀ h, g h.refusing = (g h).refusing) :
    Alike log (g out.1, out.2) (g out'.1, out'.2) := by
  obtain ⟨⟨flags, hMemory⟩, hHost, hServed, hRefused⟩ := hAlike
  refine ⟨⟨flags, (hStore _).trans hMemory⟩, ?_, hServed, hRefused⟩
  show g out'.1 = _
  rw [hHost, hRefusing]

/-- What both hosts say before and afterwards. -/
theorem Alike.between {log : Happenings} {out out' : Host × List Notice} (hAlike : Alike log out out')
    (before later : List Notice) : Alike (Happenings.said before ++ log ++ Happenings.said later)
      (out.1, before ++ out.2 ++ later) (out'.1, before ++ out'.2 ++ later) := by
  refine ⟨hAlike.memory, hAlike.host, ?_, ?_⟩
  · rw [Happenings.served_append, Happenings.served_append, Happenings.served_said, Happenings.served_said,
      ← hAlike.served]
  · rw [Happenings.refused_append, Happenings.refused_append, Happenings.refused_said, Happenings.refused_said,
      ← hAlike.refused]

theorem calls_between (log : Happenings) (before later : List Notice) :
    Happenings.calls (Happenings.said before ++ log ++ Happenings.said later) = log.calls := by
  rw [Happenings.calls_append, Happenings.calls_append, Happenings.calls_said, Happenings.calls_said, List.nil_append,
    List.append_nil]

/-! ## One operation -/

/-- Nobody asks for a walkthrough that the host remembers, unless it is not asked whether it does. -/
def Fresh (h : Host) (request : StartRequest) (now : Nanos) : Prop :=
  ∀ provider, (request.provider <|> h.provider) = some provider →
    request.force = true ∨ (h.reap now).active.isSome = true ∨ (h.store.hasCompleted provider.identity).1 = false

/-- An operation for which it makes no difference whether the store is in memory or refuses every call, but for the
warnings. -/
structure Unmoved (h : Host) (op : Op) (now : Nanos) : Prop where
  reply : h.refusing.reply op now = h.reply op now
  /-- The calls that are reported are those that the operation makes, no more and no fewer. -/
  rest  : ∃ log : Happenings, log.calls = h.refusing.calls op now ∧
    Alike log (h.perform op now) (h.refusing.perform op now)

/-- Neither store keeps a walkthrough from being started that the first one does not remember. -/
theorem ask_alike (hStore : h.store = .memory flags) {force : Bool} {identity : String}
    (hUndone : force = true ∨ (h.store.hasCompleted identity).1 = false) :
    ∃ (log : Happenings) (warnings warnings' : List Warning),
      log.calls = (if force then [] else [.read identity]) ∧
        (if force then (false, []) else h.store.hasCompleted identity) = (false, warnings) ∧
        (if force then (false, []) else h.refusing.store.hasCompleted identity) = (false, warnings') ∧
        warnings.map .warning = log.served ∧ warnings'.map .warning = log.refused := by
  cases force with
  | true => exact ⟨[], [], [], rfl, rfl, rfl, rfl, rfl⟩
  | false =>
    have hAnswer : h.store.hasCompleted identity = (false, []) := by
      refine Prod.ext (hUndone.resolve_left Bool.false_ne_true) ?_
      rw [hStore]
      rfl
    exact ⟨[.inl (.read identity)], [], [.unreadableFlag], rfl, hAnswer, rfl, rfl, rfl⟩

/-- A walkthrough is started on both hosts or on neither. -/
theorem startWith_alike (hStore : h.store = .memory flags) {provider : Provider} {request : StartRequest} {now : Nanos}
    (hAsked : request.force = true ∨ (h.reap now).active.isSome = true ∨
      (h.store.hasCompleted provider.identity).1 = false) :
    (h.refusing.startWith provider request now).2.1 = (h.startWith provider request now).2.1 ∧
      ∃ log : Happenings,
        log.calls = (if (h.reap now).active.isNone && !request.force then [.read provider.identity] else []) ∧
          Alike log ((h.startWith provider request now).1, (h.startWith provider request now).2.2)
            ((h.refusing.startWith provider request now).1, (h.refusing.startWith provider request now).2.2) := by
  have hReaped : h.refusing.reap now = (h.reap now).refusing := rfl
  have hKept : (h.reap now).store = h.store := rfl
  unfold startWith
  rw [hReaped]
  rw [← hKept] at hAsked hStore
  -- all of it happens after what has ended is released
  generalize h.reap now = reaped at hStore hAsked ⊢
  have hActive : reaped.refusing.active = reaped.active := rfl
  dsimp only
  rw [hActive]
  cases hHeld : reaped.active with
  | some held =>
    -- another one runs, so nothing is asked of the store
    exact ⟨rfl, [], rfl, .said hStore []⟩
  | none =>
    rw [Option.isSome_none, if_neg Bool.false_ne_true, if_neg Bool.false_ne_true]
    have hUndone : request.force = true ∨ (reaped.store.hasCompleted provider.identity).1 = false :=
      hAsked.imp_right fun hOr => hOr.resolve_left (by simp [hHeld])
    obtain ⟨log, warnings, warnings', hCalls, hAnswer, hAnswer', hServed, hRefused⟩ := ask_alike hStore hUndone
    rw [hAnswer, hAnswer']
    dsimp only
    rw [if_neg Bool.false_ne_true, if_neg Bool.false_ne_true]
    have hSame : log.calls =
        if ((none : Option (RunId × Run)).isNone && !request.force) = true then [.read provider.identity] else [] := by
      rw [hCalls]
      cases request.force <;> rfl
    -- a walkthrough without steps is not started at all
    split <;> exact ⟨rfl, log, hSame, ⟨flags, hStore⟩, rfl, hServed, hRefused⟩

theorem start_unmoved (hStore : h.store = .memory flags) {request : StartRequest} {now : Nanos}
    (hFresh : Fresh h request now) : Unmoved h (.start request) now := by
  cases hProvider : request.provider <|> h.provider with
  | none =>
    have hNone : (request.provider <|> h.refusing.provider) = none := hProvider
    refine ⟨?_, [], ?_, ?_⟩
    · simp only [reply, start, hProvider, hNone]
    · simp only [calls, hNone]
      rfl
    · simp only [perform, start, hProvider, hNone]
      exact .said hStore []
  | some provider =>
    have hSome : (request.provider <|> h.refusing.provider) = some provider := hProvider
    obtain ⟨hSame, log, hCalls, hAlike⟩ := startWith_alike hStore (hFresh provider hProvider)
    refine ⟨?_, log, ?_, ?_⟩
    · simp only [reply, start, hProvider, hSome, Except.map]
      rw [hSame]
    · simp only [calls, hSome]
      exact hCalls
    · simp only [perform, start, hProvider, hSome]
      exact hAlike

/-! ### Operations on the run -/

variable {id : RunId} {run : Run} {now : Nanos}

/-- An operation of which the store learns nothing. -/
theorem Unmoved.quiet {op : Op} (out : Host) (notices : List Notice) (hStore : out.store = .memory flags)
    (hCalls : h.refusing.calls op now = (h.wants op now).filterMap Effect.call?) (hWants : h.wants op now = [])
    (hReply : h.refusing.reply op now = h.reply op now) (hOut : h.perform op now = (out, notices))
    (hOut' : h.refusing.perform op now = (out.refusing, notices)) : Unmoved h op now := by
  refine ⟨hReply, said notices, ?_, ?_⟩
  · rw [hCalls, hWants, Happenings.calls_said]
    rfl
  · rw [hOut, hOut']
    exact .said hStore notices

/-- An operation that reaches the run: what the run wants is done between what else there is to say, and then the hosts
may still be changed, but not their stores. -/
theorem Unmoved.reached {op : Op} {runOp : Run.Op} (midway : Host) (g : Host → Host) (before later : List Notice)
    (hStore : midway.store = .memory flags) (hOp : op.onRun h now = some runOp) (hActive : h.active = some (id, run))
    (hKeeps : ∀ h, (g h).store = h.store) (hSame : ∀ h, g h.refusing = (g h).refusing)
    (hReply : h.refusing.reply op now = h.reply op now)
    (hOut : h.perform op now =
      (g (midway.settle id (run.perform runOp now).1 (run.perform runOp now).2.2).1,
        before ++ (midway.settle id (run.perform runOp now).1 (run.perform runOp now).2.2).2 ++ later))
    (hOut' : h.refusing.perform op now =
      (g (midway.refusing.settle id (run.perform runOp now).1 (run.perform runOp now).2.2).1,
        before ++ (midway.refusing.settle id (run.perform runOp now).1 (run.perform runOp now).2.2).2 ++ later)) :
    Unmoved h op now := by
  have hCalls : h.refusing.calls op now = (h.wants op now).filterMap Effect.call? := by
    cases op with
    | start request => cases hOp
    | _ => rfl
  refine ⟨hReply, said before ++ (run.perform runOp now).2.2.flatMap Effect.happenings ++ said later, ?_, ?_⟩
  · rw [calls_between, calls_happenings, hCalls, wants_run hOp hActive]
  · -- warnings about floating bubbles come before, callbacks of floating bubbles afterwards
    rw [hOut, hOut']
    exact ((settle_alike hStore id _ _).andThen hKeeps hSame).between before later

theorem handle_unmoved (hStore : h.store = .memory flags) (e : Event) : Unmoved h (.handle e) now := by
  cases hActive : h.active with
  | none =>
    have hNone : h.refusing.active = none := hActive
    refine .quiet (h.reap now) [] hStore rfl (wants_absent (.inl hActive)) ?_ ?_ ?_
    · simp only [reply, handle, hActive, hNone]
    · simp only [perform, handle, hActive]
    · simp only [perform, handle, hNone]
      rfl
  | some held =>
    have hSome : h.refusing.active = some (held.1, held.2) := hActive
    refine .reached h (fun h => h.reap now) [] [] hStore rfl hActive (fun _ => rfl) (fun _ => rfl) ?_ ?_ ?_
    · simp only [reply, handle, hActive, hSome]
    · simp only [perform, handle, hActive, List.nil_append, List.append_nil, Run.perform]
    · simp only [perform, handle, hSome, List.nil_append, List.append_nil, Run.perform]

theorem runCallbacks_refusing (h : Host) (now : Nanos) (callbacks : List BubbleCallback) :
    h.refusing.runCallbacks now callbacks =
      ((h.runCallbacks now callbacks).1.refusing, (h.runCallbacks now callbacks).2) := by
  -- callbacks touch nothing but the bubbles, and the bubbles of both hosts are the same
  obtain ⟨hBubbles, hNotices⟩ := runCallbacks_eq h now callbacks
  obtain ⟨hBubbles', hNotices'⟩ := runCallbacks_eq h.refusing now callbacks
  obtain ⟨bubbles, hAfter⟩ := runCallbacks_frame h now callbacks
  obtain ⟨bubbles', hAfter'⟩ := runCallbacks_frame h.refusing now callbacks
  refine Prod.ext ?_ (hNotices'.trans hNotices.symm)
  rw [hAfter] at hBubbles ⊢
  rw [hAfter'] at hBubbles' ⊢
  obtain rfl : bubbles' = bubbles := hBubbles'.trans hBubbles.symm
  rfl

theorem tickRun_alike (hStore : h.store = .memory flags) (now : Nanos) :
    ∃ log : Happenings,
      log.calls = h.refusing.calls .tick now ∧ Alike log (h.tickRun now) (h.refusing.tickRun now) := by
  have hCalls : h.refusing.calls .tick now = (h.wants .tick now).filterMap Effect.call? := rfl
  rw [hCalls]
  cases hActive : h.active with
  | none =>
    have hNone : h.refusing.active = none := hActive
    refine ⟨[], ?_, ?_⟩
    · rw [wants_absent (.inl hActive)]
      rfl
    · rw [tickRun, tickRun, hActive, hNone]
      exact .said hStore []
  | some held =>
    have hSome : h.refusing.active = some (held.1, held.2) := hActive
    have hTick : Op.tick.onRun h now = some .tick := rfl
    refine ⟨(held.2.tick now).2.2.flatMap Effect.happenings, ?_, ?_⟩
    · rw [calls_happenings, wants_run hTick hActive]
      rfl
    · rw [tickRun, tickRun, hActive, hSome]
      exact settle_alike hStore ..

theorem tick_unmoved (hStore : h.store = .memory flags) : Unmoved h .tick now := by
  obtain ⟨log, hCalls, hRun⟩ := tickRun_alike hStore now
  refine ⟨rfl, said [] ++ log ++ said ((h.called .tick now).map fun call => .callback call.2.text), ?_, ?_⟩
  · rw [calls_between, hCalls]
  · -- the bubbles are looked through when the run is done with, and their callbacks do not concern the store
    have hReady : h.refusing.ready now = (h.ready now).refusing := by
      rw [ready, hRun.host]
      rfl
    obtain ⟨bubbles, hAfter⟩ := runCallbacks_frame (h.ready now) now ((h.called .tick now).map (·.2))
    have hCalled : h.refusing.called .tick now = h.called .tick now := rfl
    have hAll := hRun.between [] ((h.called .tick now).map fun call => .callback call.2.text)
    rw [tick_rings, tick_rings, hReady, runCallbacks_refusing, hCalled]
    refine ⟨?_, rfl, hAll.served, hAll.refused⟩
    rw [hAfter]
    exact hRun.memory

theorem draw_unmoved (hStore : h.store = .memory flags) (area : Rect) (b : Buffer) : Unmoved h (.draw area b) now := by
  cases hActive : h.active with
  | none =>
    have hNone : h.refusing.active = none := hActive
    refine .quiet { h with active := none, bubbles := (drawBubbles area h.anchors now h.bubbles b).1 }
      ((drawBubbles area h.anchors now h.bubbles b).2.2.map .warning) hStore rfl (wants_absent (.inl hActive)) ?_ ?_ ?_
    · simp only [reply, draw, hActive, hNone]
      rfl
    · simp only [perform, draw, hActive]
    · simp only [perform, draw, hNone]
      rfl
  | some held =>
    have hSome : h.refusing.active = some (held.1, held.2) := hActive
    refine .reached { h with bubbles := (drawBubbles area h.anchors now h.bubbles b).1 } id
      ((drawBubbles area h.anchors now h.bubbles b).2.2.map .warning) [] hStore rfl hActive (fun _ => rfl)
      (fun _ => rfl) ?_ ?_ ?_
    · simp only [reply, draw, hActive, hSome]
      rfl
    · simp only [perform, draw, hActive, List.append_nil, Run.perform]
      rfl
    · simp only [perform, draw, hSome, List.append_nil, Run.perform]
      rfl

theorem step_unmoved (hStore : h.store = .memory flags) (target : RunId) : Unmoved h (.step target) now := by
  have hSame : h.refusing.reach target = h.reach target := rfl
  rcases reach_cases h target with ⟨run, hActive, hFound⟩ | ⟨hOther, hGone⟩
  · have hOp : Op.onRun (.step target) h now = some .step := if_pos (by simp [hActive])
    refine .reached h id [] [] hStore hOp hActive (fun _ => rfl) (fun _ => rfl) ?_ ?_ ?_
    · simp only [reply, hSame, hFound, stepThrough]
    · simp only [perform, hFound, stepThrough, List.nil_append, List.append_nil, Run.perform]
      rfl
    · simp only [perform, hSame, hFound, stepThrough, List.nil_append, List.append_nil, Run.perform]
      rfl
  · have hOp : Op.onRun (.step target) h now = none := if_neg (by simp [hOther])
    have hWants : h.wants (.step target) now = [] := wants_absent (.inr hOp)
    refine .quiet h [] hStore rfl hWants ?_ ?_ ?_
    · simp only [reply, hSame, hGone, stepThrough]
    · simp only [perform, hGone, stepThrough, Reach.refusal]
    · simp only [perform, hSame, hGone, stepThrough, Reach.refusal]

theorem dismiss_unmoved (hStore : h.store = .memory flags) (target : RunId) : Unmoved h (.dismiss target) now := by
  have hSame : h.refusing.reach target = h.reach target := rfl
  have hWants : h.wants (.dismiss target) now = [] := wants_quiet fun runOp hOp _ => by
    obtain ⟨-, hThis⟩ := Option.ite_none_right_eq_some.mp hOp
    cases hThis
    rfl
  rcases reach_cases h target with ⟨run, -, hFound⟩ | ⟨-, hGone⟩
  · refine .quiet { h with active := some (target, run.dismiss.1) } [] hStore rfl hWants ?_ ?_ ?_
    · simp only [reply, hSame, hFound, dismissThrough]
    · simp only [perform, hFound, dismissThrough]
    · simp only [perform, hSame, hFound, dismissThrough]
      rfl
  · refine .quiet h [] hStore rfl hWants ?_ ?_ ?_
    · simp only [reply, hSame, hGone, dismissThrough]
    · simp only [perform, hGone, dismissThrough, Reach.refusal]
    · simp only [perform, hSame, hGone, dismissThrough, Reach.refusal]

/-- Operations go by the store only when a walkthrough is to be started, and change it only when one is completed. -/
theorem perform_unmoved (hStore : h.store = .memory flags) {op : Op} (hOwn : ∀ store disk, op ≠ .alter store disk)
    (hFresh : ∀ request, op = .start request → Fresh h request now) : Unmoved h op now := by
  cases op with
  | start request => exact start_unmoved hStore (hFresh request rfl)
  | handle e => exact handle_unmoved hStore e
  | tick => exact tick_unmoved hStore
  | draw area b => exact draw_unmoved hStore area b
  | step target => exact step_unmoved hStore target
  | dismiss target => exact dismiss_unmoved hStore target
  | alter store disk => exact absurd rfl (hOwn store disk)
  | disappear =>
    exact .quiet h.disappear [] hStore rfl (wants_quiet fun _ hOp _ => by cases hOp; rfl) rfl rfl rfl
  | showBubble own options =>
    exact .quiet (h.showBubble own options now).1 [] hStore rfl (wants_absent (.inr rfl)) rfl rfl rfl
  | removeBubble id =>
    exact .quiet (h.removeBubble id now) [] hStore rfl (wants_absent (.inr rfl)) rfl rfl rfl
  | arrange anchors =>
    exact .quiet { h with anchors := anchors } [] hStore rfl (wants_absent (.inr rfl)) rfl rfl rfl
  | revise index view =>
    exact .quiet (h.perform (.revise index view) now).1 [] hStore rfl (wants_quiet fun _ hOp _ => by cases hOp; rfl)
      rfl rfl rfl

end Alike

/-! ## Any operations -/

/-- Whether an operation asks for a walkthrough. -/
def Op.asks (op : Op) : Bool :=
  match op with
  | .start _ => true
  | _ => false

section Sequence

variable {h : Host} {flags : Flags} {moments : List (Op × Nanos)}

/-- Whatever is asked of the host, nobody asks for a walkthrough again that it remembers by then. -/
def Fresh.Always (h : Host) (moments : List (Op × Nanos)) : Prop :=
  ∀ before request now later, moments = before ++ (.start request, now) :: later → Fresh (h.after before) request now

theorem Fresh.Always.before {before later : List (Op × Nanos)} (hFresh : Fresh.Always h (before ++ later)) :
    Fresh.Always h before := by
  rintro earlier request now rest rfl
  exact hFresh earlier request now (rest ++ later) (by rw [List.append_assoc, List.cons_append])

/-- Both hosts go through the same. -/
theorem after_unmoved (hStore : h.store = .memory flags) (hOwn : ∀ m ∈ moments, ∀ store disk, m.1 ≠ .alter store disk)
    (hFresh : Fresh.Always h moments) :
    (∃ flags, (h.after moments).store = .memory flags) ∧ h.refusing.after moments = (h.after moments).refusing := by
  -- from the last moment back: whether it asks for something that is remembered depends on all that came before
  induction moments using List.reverseRecOn with
  | nil => exact ⟨⟨flags, hStore⟩, rfl⟩
  | append_singleton earlier m ih =>
    obtain ⟨⟨flags', hKept⟩, hSame⟩ := ih (fun m' hm => hOwn m' (List.mem_append_left _ hm)) hFresh.before
    have hLast : m ∈ earlier ++ [m] := List.mem_append_right _ (List.mem_singleton_self m)
    have hMoment : Unmoved (h.after earlier) m.1 m.2 :=
      perform_unmoved hKept (hOwn m hLast) fun request hStart => hFresh earlier request m.2 [] (by rw [← hStart])
    obtain ⟨log, -, hAlike⟩ := hMoment.rest
    rw [after_concat, after_concat, hSame]
    exact ⟨hAlike.memory, hAlike.host⟩

/-- As long as nobody asks for a walkthrough none runs, and none is remembered. -/
theorem after_unasked (hNone : h.active = none) (hOwn : ∀ m ∈ moments, ∀ store disk, m.1 ≠ .alter store disk)
    (hUnasked : ∀ m ∈ moments, m.1.asks = false) :
    (h.after moments).active = none ∧ (h.after moments).store = h.store := by
  induction moments using List.reverseRecOn with
  | nil => exact ⟨hNone, rfl⟩
  | append_singleton earlier m ih =>
    obtain ⟨hIdle, hStore⟩ := ih (fun m' hm => hOwn m' (List.mem_append_left _ hm))
      (fun m' hm => hUnasked m' (List.mem_append_left _ hm))
    have hLast : m ∈ earlier ++ [m] := List.mem_append_right _ (List.mem_singleton_self m)
    have hOther : ∀ request, m.1 ≠ .start request := by
      intro request hStart
      have hAsks := hUnasked m hLast
      rw [hStart] at hAsks
      cases hAsks
    have hInside : m.1.outside (h.after earlier) = h.after earlier := by
      cases hOp : m.1 with
      | alter store disk => exact absurd hOp (hOwn m hLast store disk)
      | _ => rfl
    have hSpared : Spared (m.1.outside (h.after earlier)) ((h.after earlier).perform m.1 m.2).1 :=
      perform_spared (.inl hIdle) hOther
    rw [hInside] at hSpared
    rw [after_concat]
    exact ⟨hSpared.active.elim (·.trans hIdle) id, hSpared.store.trans hStore⟩

/-- The one time that somebody asks for a walkthrough it is none that an empty store remembers. -/
theorem Fresh.always_of_once (hStore : h.store = .memory .empty) (hNone : h.active = none)
    (hOwn : ∀ m ∈ moments, ∀ store disk, m.1 ≠ .alter store disk) (hOnce : moments.countP (·.1.asks) ≤ 1) :
    Fresh.Always h moments := by
  rintro before request now later rfl provider -
  -- whatever came before, nobody has asked, so the store is as empty as it was
  have hUnasked : ∀ m ∈ before, m.1.asks = false := by
    rw [List.countP_append, List.countP_cons_of_pos rfl] at hOnce
    have hZero : before.countP (·.1.asks) = 0 := by omega
    simpa using List.countP_eq_zero.mp hZero
  obtain ⟨-, hKept⟩ := after_unasked hNone (fun m hm => hOwn m (List.mem_append_left _ hm)) hUnasked
  refine .inr (.inr ?_)
  rw [hKept, hStore]
  rfl

end Sequence

/--
**A store that refuses.** Take two hosts, one with an empty store in memory, the other with a store that refuses every
call, and any sequence of operations, at any readings of the clock, in which nobody asks again for a walkthrough that
the first host has come to remember. Before and after every operation the hosts differ in nothing but the store; every
operation is answered alike, with the same picture if it draws one; and what there is to say about it is the same on
both, in the same places, but for one warning on the second host for each call that it makes of its store.
-/
theorem refusal_unseen (disk : Disk) (anchors : Anchors) (provider : Option Provider) (moments : List (Op × Nanos))
    (hOwn : ∀ m ∈ moments, ∀ store disk, m.1 ≠ .alter store disk)
    (hFresh : Fresh.Always { store := .memory .empty, disk := disk, anchors := anchors, provider := provider }
      moments) :
    let served : Host := { store := .memory .empty, disk := disk, anchors := anchors, provider := provider }
    let refused : Host := { store := .refusing, disk := disk, anchors := anchors, provider := provider }
    refused.after moments = (served.after moments).refusing ∧
      ∀ before op now later, moments = before ++ (op, now) :: later →
        refused.after before = (served.after before).refusing ∧ Unmoved (served.after before) op now := by
  intro served refused
  have hSame : refused = served.refusing := rfl
  rw [hSame]
  refine ⟨(after_unmoved rfl hOwn hFresh).2, ?_⟩
  rintro before op now later rfl
  obtain ⟨⟨flags, hStore⟩, hBefore⟩ := after_unmoved rfl (fun m hm => hOwn m (List.mem_append_left _ hm)) hFresh.before
  have hThis : (op, now) ∈ before ++ (op, now) :: later := List.mem_append_right _ List.mem_cons_self
  refine ⟨hBefore, perform_unmoved hStore (hOwn _ hThis) fun request hStart => ?_⟩
  subst hStart
  exact hFresh before request now later rfl

/-- A walkthrough of one step is started, advanced through its handle to its end, and given a tick. The host whose store
refuses every call warns of two of them: one as the walkthrough starts, one as it ends, before its delegate is told. -/
theorem refusal_unseen_once :
    let request : StartRequest :=
      { provider := some ⟨"tour", [.centered default .zero]⟩, delegate := some ⟨[.callback "end"]⟩ }
    let moments : List (Op × Nanos) := [(.start request, 0), (.step 0, 1), (.tick, 2)]
    let served : Host := {}
    let refused : Host := { store := .refusing }
    refused.after moments = (served.after moments).refusing ∧
      Unmoved (served.after [(.start request, 0)]) (.step 0) 1 ∧
      (refused.perform (.start request) 0).2 = [.warning .unreadableFlag] ∧
      ((refused.after [(.start request, 0)]).perform (.step 0) 1).2 = [.warning .unwritableFlag, .callback "end"] := by
  intro request moments served refused
  have hOwn : ∀ m ∈ moments, ∀ store disk, m.1 ≠ .alter store disk := by
    intro m hm store disk
    simp only [moments, List.mem_cons, List.not_mem_nil, or_false] at hm
    rcases hm with rfl | rfl | rfl <;> exact fun hAlter => nomatch hAlter
  have hUnseen := refusal_unseen .fresh .empty none moments hOwn (.always_of_once rfl rfl hOwn (by decide))
  exact ⟨hUnseen.1, (hUnseen.2 [(.start request, 0)] (.step 0) 1 [(.tick, 2)] rfl).2, by decide, by decide⟩

end Host

end GuidedTour
