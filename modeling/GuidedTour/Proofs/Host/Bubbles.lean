import GuidedTour.Proofs.Host.Operation
import Mathlib.Data.List.Forall2

/-!
# What one operation makes of the floating bubbles

Operations treat every floating bubble on its own: they leave it, begin to shrink it, or let go of it. Only a tick looks
at several at once, because the callbacks of those whose time is up may remove others. `called` lists these callbacks,
`Moment.ends` says whose time on the screen a moment ends, and `Carried` what becomes of a bubble that the host keeps.

Main results:

* `perform_bubbles` - every operation carries each bubble that it keeps on by itself, and shows at most one more.
* `tick_rings` - the callbacks of a tick run in the order of their bubbles, when all bubbles that are due have been
  removed.
* `drawn_without_gone` - a bubble that has shrunk away is not drawn.
-/

namespace GuidedTour

open Layout Screen Completion Storage

/-! ## One bubble -/

namespace FloatingBubble

theorem bubbleRemoval_pos : 0 < bubbleRemoval := by decide

theorem remove_of_removed {f : FloatingBubble} (h : f.isRemoved = true) (now : Nanos) : f.remove now = f := if_pos h

theorem goneAt_remove {f : FloatingBubble} (h : f.isRemoved = false) (now : Nanos) :
    (f.remove now).goneAt = some (now + bubbleRemoval) := by
  rw [remove, if_neg (by simp [h])]

theorem isRemoved_remove (f : FloatingBubble) (now : Nanos) : (f.remove now).isRemoved = true := by
  cases h : f.isRemoved with
  | true => rwa [remove_of_removed h]
  | false => rw [isRemoved, goneAt_remove h, Option.isSome_some]

theorem remove_keeps (f : FloatingBubble) (now : Nanos) :
    (f.remove now).id = f.id ∧ (f.remove now).expiresAt = f.expiresAt ∧ (f.remove now).onFinished = f.onFinished := by
  unfold remove
  split <;> exact ⟨rfl, rfl, rfl⟩

theorem expire_of_due {f : FloatingBubble} {now : Nanos} (h : f.isDue now = true) :
    f.expire now = ({ f.remove now with onFinished := none }, f.onFinished) := if_pos h

theorem expire_of_early {f : FloatingBubble} {now : Nanos} (h : f.isDue now = false) : f.expire now = (f, none) :=
  if_neg (by simp [h])

theorem id_expire (f : FloatingBubble) (now : Nanos) : (f.expire now).1.id = f.id := by
  cases h : f.isDue now with
  | true =>
    rw [expire_of_due h]
    exact (f.remove_keeps now).1
  | false => rw [expire_of_early h]

theorem goneAt_of_shown {f : FloatingBubble} (hShown : f.isRemoved = false) : f.goneAt = none := by
  rwa [isRemoved, Option.isSome_eq_false_iff, Option.isNone_iff_eq_none] at hShown

theorem isGone_of_shown {f : FloatingBubble} (hShown : f.isRemoved = false) (now : Nanos) : f.isGone now = false := by
  rw [isGone, goneAt_of_shown hShown, Option.any_none]

/-- A bubble whose time is up begins to shrink, so it is not gone at once. -/
theorem isGone_expire (f : FloatingBubble) (now : Nanos) : (f.expire now).1.isGone now = f.isGone now := by
  cases h : f.isDue now with
  | true =>
    have hShown : f.isRemoved = false := by
      rw [isDue, Bool.and_eq_true, Bool.not_eq_true'] at h
      exact h.1
    rw [expire_of_due h, isGone_of_shown hShown]
    show (f.remove now).goneAt.any _ = false
    rw [goneAt_remove hShown, Option.any_some, decide_eq_false_iff_not]
    exact Nat.not_le.mpr (Nat.lt_add_of_pos_right bubbleRemoval_pos)
  | false => rw [expire_of_early h]

theorem draw_keeps (f : FloatingBubble) (area : Rect) (b : Buffer) (anchors : Anchors) (now : Nanos) :
    ∃ view lastError, (f.draw area b anchors now).1 = { f with view := view, lastError := lastError } := by
  have hPlace : ∀ ctx, ∃ view lastError, (f.place ctx now).1 = { f with view := view, lastError := lastError } := by
    intro ctx
    unfold place
    split
    · exact ⟨_, _, rfl⟩
    · dsimp only
      split
      · exact ⟨_, _, rfl⟩
      · split <;> exact ⟨_, _, rfl⟩
  unfold draw
  split
  · exact ⟨_, _, rfl⟩
  · obtain ⟨view, lastError, hPlaced⟩ := hPlace (.of area anchors)
    dsimp only
    rw [hPlaced]
    exact ⟨_, _, rfl⟩

/-- A bubble that has shrunk away leaves the picture as it is. -/
theorem draw_of_gone {f : FloatingBubble} {now : Nanos} (h : f.isGone now = true) (area : Rect) (b : Buffer)
    (anchors : Anchors) : f.draw area b anchors now = (f, b, []) := if_pos h

end FloatingBubble

namespace Host

/-! ## Moments -/

/-- The callbacks that an operation runs, in order, each with the number of its bubble. -/
def called (h : Host) (op : Op) (now : Nanos) : List (BubbleId × BubbleCallback) :=
  match op with
  | .tick => h.bubbles.filterMap fun f => (f.expire now).2.map (f.id, ·)
  | _ => []

/-- An operation at a reading of the clock, and the callbacks that it ran. -/
structure Moment where
  op     : Op
  now    : Nanos
  called : List (BubbleId × BubbleCallback)

/-- What an operation is to the bubbles of a host. -/
def moment (h : Host) (op : Op) (now : Nanos) : Moment := ⟨op, now, h.called op now⟩

/-- Whether a moment ends the time on the screen of a bubble that is due at some reading of the clock: it is removed by
hand or by a callback, or its time is up at a tick, or the screen goes away. -/
def Moment.ends (m : Moment) (id : BubbleId) (due : Option Nanos) : Bool :=
  match m.op with
  | .removeBubble other => decide (other = id)
  | .tick => due.any (· ≤ m.now) || m.called.any fun call => decide (id ∈ call.2.removes)
  | .disappear => true
  | _ => false

/-- What becomes of a bubble that the host keeps through a moment: unless it was removed before, it is if the moment ends
its time, and then it has shrunk away 300 milliseconds later. -/
structure Carried (m : Moment) (f f' : FloatingBubble) : Prop where
  id         : f'.id = f.id
  expiresAt  : f'.expiresAt = f.expiresAt
  onFinished : m.ends f.id f.expiresAt = false → f'.onFinished = f.onFinished
  goneAt     : f'.goneAt = if f.isRemoved = true then f.goneAt
    else if m.ends f.id f.expiresAt = true then some (m.now + bubbleRemoval) else none

theorem Carried.idle {m : Moment} {f f' : FloatingBubble} (hEnds : m.ends f.id f.expiresAt = false)
    (hSame : ∃ view lastError, f' = { f with view := view, lastError := lastError }) : Carried m f f' := by
  obtain ⟨view, lastError, rfl⟩ := hSame
  refine ⟨rfl, rfl, fun _ => rfl, ?_⟩
  rw [hEnds, FloatingBubble.isRemoved]
  cases f.goneAt <;> rfl

/-- Nothing happens any more to a bubble that was removed. -/
theorem Carried.over {m : Moment} {f : FloatingBubble} (hRemoved : f.isRemoved = true) : Carried m f f :=
  ⟨rfl, rfl, fun _ => rfl, (if_pos hRemoved).symm⟩

theorem Carried.removed {m : Moment} {f f' : FloatingBubble} (hEnds : m.ends f.id f.expiresAt = true)
    (hRemove : ∃ onFinished, f' = { f.remove m.now with onFinished := onFinished }) : Carried m f f' := by
  obtain ⟨onFinished, rfl⟩ := hRemove
  obtain ⟨hId, hExpires, -⟩ := f.remove_keeps m.now
  refine ⟨hId, hExpires, fun hStays => ?_, ?_⟩
  · cases hEnds.symm.trans hStays
  · show (f.remove m.now).goneAt = _
    cases hRemoved : f.isRemoved with
    | true => rw [if_pos rfl, FloatingBubble.remove_of_removed hRemoved]
    | false => rw [if_neg Bool.false_ne_true, if_pos hEnds, FloatingBubble.goneAt_remove hRemoved]

/-- Whether an operation leaves a bubble with the host. -/
def Op.keeps (op : Op) (h : Host) (now : Nanos) (f : FloatingBubble) : Bool :=
  match op with
  | .start request => !((request.provider <|> h.provider).isSome && f.isGone now)
  | .handle _ | .tick => !f.isGone now
  | .disappear => false
  | _ => true

/-- The bubble that an operation shows. -/
def Op.shown (op : Op) (h : Host) (now : Nanos) : List FloatingBubble :=
  match op with
  | .showBubble own options => [.shown h.bubbleCount own options now]
  | _ => []

/-! ## Callbacks -/

theorem removeBubbles_eq (h : Host) (now : Nanos) (ids : List BubbleId) :
    (ids.foldl (fun h id => h.removeBubble id now) h).bubbles =
      h.bubbles.map fun f => if f.id ∈ ids then f.remove now else f := by
  induction ids generalizing h with
  | nil => simp
  | cons id rest ih =>
    rw [List.foldl_cons, ih]
    show (h.bubbles.map _).map _ = _
    rw [List.map_map]
    refine List.map_congr_left fun f _ => ?_
    -- removed twice is removed once
    by_cases hThis : f.id = id
    · have hAgain := FloatingBubble.remove_of_removed (f.isRemoved_remove now) now
      simp [hThis, hAgain]
    · simp [hThis]

theorem runCallbacks_eq (h : Host) (now : Nanos) (callbacks : List BubbleCallback) :
    (h.runCallbacks now callbacks).1.bubbles =
        (h.bubbles.map fun f => if callbacks.any (fun c => decide (f.id ∈ c.removes)) then f.remove now else f) ∧
      (h.runCallbacks now callbacks).2 = callbacks.map fun c => .callback c.text := by
  -- on the callbacks; a bubble that an earlier one has removed stays as it is
  induction callbacks generalizing h with
  | nil => exact ⟨by simp [runCallbacks], rfl⟩
  | cons c rest ih =>
    obtain ⟨hBubbles, hNotices⟩ := ih (h.runCallback now c).1
    refine ⟨?_, ?_⟩
    · show ((h.runCallback now c).1.runCallbacks now rest).1.bubbles = _
      rw [hBubbles]
      show ((c.removes.foldl (fun h id => h.removeBubble id now) h).bubbles.map _) = _
      rw [removeBubbles_eq, List.map_map]
      refine List.map_congr_left fun f _ => ?_
      by_cases hThis : f.id ∈ c.removes
      · have hAgain := FloatingBubble.remove_of_removed (f.isRemoved_remove now) now
        simp [hThis, hAgain]
      · simp [hThis]
    · show (h.runCallback now c).2 :: ((h.runCallback now c).1.runCallbacks now rest).2 = _
      rw [hNotices]
      rfl

theorem settle_bubbles (h : Host) (id : RunId) (run : Run) (effects : List Effect) :
    (h.settle id run effects).1.bubbles = h.bubbles := by
  have hSettle : h.settle id run effects = _ := settle_eq h h.bubbles id run effects
  rw [hSettle]

theorem tickRun_bubbles (h : Host) (now : Nanos) : (h.tickRun now).1.bubbles = h.bubbles := by
  unfold tickRun
  split
  · rfl
  · exact settle_bubbles ..

/-- The host of a tick when its callbacks begin: the bubbles whose time is up are removed, and those that have shrunk
away are gone. -/
def ready (h : Host) (now : Nanos) : Host :=
  reap { (h.tickRun now).1 with bubbles := h.bubbles.map fun f => (f.expire now).1 } now

theorem tick_eq (h : Host) (now : Nanos) :
    h.tick now = (((h.ready now).runCallbacks now ((h.called .tick now).map (·.2))).1,
      (h.tickRun now).2 ++ ((h.ready now).runCallbacks now ((h.called .tick now).map (·.2))).2) := by
  have hCalled : (h.called .tick now).map (·.2) = (h.bubbles.map fun f => f.expire now).filterMap fun p => p.2 := by
    rw [called, List.map_filterMap, List.filterMap_map]
    refine List.filterMap_congr fun f _ => ?_
    show ((f.expire now).2.map _).map _ = (f.expire now).2
    rw [Option.map_map]
    exact Option.map_id'
  unfold tick
  dsimp only
  rw [tickRun_bubbles, List.map_map, ← hCalled]
  rfl

/-! ## Every operation -/

theorem moment_ends_of_tick (h : Host) (now : Nanos) (f : FloatingBubble) :
    (h.moment .tick now).ends f.id f.expiresAt =
      (f.expiresAt.any (· ≤ now) || ((h.called .tick now).map (·.2)).any fun c => decide (f.id ∈ c.removes)) := by
  rw [List.any_map]
  rfl

/-- A bubble that goes through a tick: first its own time may be up, and then a callback may remove it. -/
theorem carried_tick (h : Host) (now : Nanos) (f : FloatingBubble) :
    Carried (h.moment .tick now) f
      (if ((h.called .tick now).map (·.2)).any (fun c => decide ((f.expire now).1.id ∈ c.removes)) = true then
        (f.expire now).1.remove now else (f.expire now).1) := by
  have hEnds := moment_ends_of_tick h now f
  rw [f.id_expire]
  generalize ((h.called .tick now).map (·.2)).any (fun c => decide (f.id ∈ c.removes)) = cancelled at hEnds ⊢
  cases hRemoved : f.isRemoved with
  | true =>
    have hEarly : f.isDue now = false := by rw [FloatingBubble.isDue, hRemoved]; rfl
    rw [FloatingBubble.expire_of_early hEarly, FloatingBubble.remove_of_removed hRemoved, ite_self]
    exact .over hRemoved
  | false =>
    have hDue : f.isDue now = f.expiresAt.any (· ≤ now) := by rw [FloatingBubble.isDue, hRemoved]; rfl
    cases hTime : f.expiresAt.any (· ≤ now) with
    | true =>
      -- its time is up, and what the callbacks then remove is removed already
      rw [FloatingBubble.expire_of_due (hDue.trans hTime),
        FloatingBubble.remove_of_removed (f := { f.remove now with onFinished := none }) (f.isRemoved_remove now),
        ite_self]
      exact .removed (by rw [hEnds, hTime]; rfl) ⟨none, rfl⟩
    | false =>
      rw [FloatingBubble.expire_of_early (hDue.trans hTime)]
      cases cancelled with
      | true => exact .removed (by rw [hEnds, hTime]; rfl) ⟨_, rfl⟩
      | false => exact .idle (by rw [hEnds, hTime]; rfl) ⟨_, _, rfl⟩

theorem carried_all {m : Moment} {bubbles : List FloatingBubble}
    (hEnds : ∀ f ∈ bubbles, m.ends f.id f.expiresAt = false) : List.Forall₂ (Carried m) bubbles bubbles :=
  List.forall₂_same.mpr fun f hf => .idle (hEnds f hf) ⟨_, _, rfl⟩

theorem carried_draw {m : Moment} {bubbles : List FloatingBubble}
    (hEnds : ∀ f ∈ bubbles, m.ends f.id f.expiresAt = false) (area : Rect) (anchors : Anchors) (now : Nanos) (b : Buffer) :
    List.Forall₂ (Carried m) bubbles (drawBubbles area anchors now bubbles b).1 := by
  induction bubbles generalizing b with
  | nil => exact .nil
  | cons f rest ih =>
    exact .cons (.idle (hEnds f List.mem_cons_self) (f.draw_keeps area b anchors now))
      (ih (fun g hg => hEnds g (List.mem_cons_of_mem f hg)) _)

theorem applyAll_bubbleCount (h : Host) (effects : List Effect) :
    (h.applyAll effects).1.bubbleCount = h.bubbleCount := by
  obtain ⟨store, disk, hAfter⟩ := h.applyAll_outside effects
  rw [hAfter]

theorem settle_bubbleCount (h : Host) (id : RunId) (run : Run) (effects : List Effect) :
    (h.settle id run effects).1.bubbleCount = h.bubbleCount :=
  applyAll_bubbleCount ..

theorem tickRun_bubbleCount (h : Host) (now : Nanos) : (h.tickRun now).1.bubbleCount = h.bubbleCount := by
  unfold tickRun
  split
  · rfl
  · exact settle_bubbleCount ..

theorem startWith_bubbles (h : Host) (provider : Provider) (request : StartRequest) (now : Nanos) :
    (h.startWith provider request now).1.bubbles = h.bubbles.filter (!·.isGone now) ∧
      (h.startWith provider request now).1.bubbleCount = h.bubbleCount := by
  unfold startWith
  dsimp only
  by_cases hHeld : (h.reap now).active.isSome = true
  · rw [if_pos hHeld]
    exact ⟨rfl, rfl⟩
  rw [if_neg hHeld]
  generalize (if request.force = true then (false, []) else _ : Bool × List Warning) = asked
  by_cases hDone : asked.1 = true
  · rw [if_pos hDone]
    exact ⟨rfl, rfl⟩
  rw [if_neg hDone]
  split <;> exact ⟨rfl, rfl⟩

/-- What an operation leaves of the bubbles: each one that is kept is carried on, and at most one is shown anew. -/
structure Carrying (h : Host) (op : Op) (now : Nanos) (after : Host) : Prop where
  bubbles : ∃ carried, after.bubbles = carried ++ op.shown h now ∧
    List.Forall₂ (Carried (h.moment op now)) (h.bubbles.filter (op.keeps h now)) carried
  count   : after.bubbleCount = h.bubbleCount + (op.shown h now).length

/-- An operation that leaves the bubbles alone, as far as it keeps them. -/
theorem Carrying.idle {h after : Host} {op : Op} {now : Nanos} (hShown : op.shown h now = [])
    (hEnds : ∀ f ∈ h.bubbles.filter (op.keeps h now), (h.moment op now).ends f.id f.expiresAt = false)
    (hBubbles : after.bubbles = h.bubbles.filter (op.keeps h now)) (hCount : after.bubbleCount = h.bubbleCount) :
    Carrying h op now after := by
  refine ⟨⟨_, ?_, carried_all hEnds⟩, ?_⟩
  · rw [hShown, List.append_nil, hBubbles]
  · rw [hShown, hCount]
    rfl

/-- Every bubble that a tick leaves has first had its own time, and then the callbacks. -/
theorem bubbles_tick (h : Host) (now : Nanos) :
    (h.tick now).1.bubbles = (h.bubbles.filter (!·.isGone now)).map fun f =>
      if ((h.called .tick now).map (·.2)).any (fun c => decide ((f.expire now).1.id ∈ c.removes)) = true then
        (f.expire now).1.remove now else (f.expire now).1 := by
  obtain ⟨hBubbles, -⟩ := runCallbacks_eq (h.ready now) now ((h.called .tick now).map (·.2))
  have hReady : (h.ready now).bubbles = (h.bubbles.filter (!·.isGone now)).map fun f => (f.expire now).1 := by
    show (h.bubbles.map _).filter _ = _
    rw [List.filter_map]
    refine congrArg _ (List.filter_congr fun f _ => ?_)
    exact congrArg (!·) (f.isGone_expire now)
  rw [tick_eq, hBubbles, hReady, List.map_map]
  rfl

theorem tick_bubbles (h : Host) (now : Nanos) : Carrying h .tick now (h.tick now).1 := by
  obtain ⟨bubbles, hOthers⟩ := runCallbacks_frame (h.ready now) now ((h.called .tick now).map (·.2))
  refine ⟨⟨_, (List.append_nil _).symm, ?_⟩, ?_⟩
  · rw [bubbles_tick]
    exact List.forall₂_map_right_iff.mpr (List.forall₂_same.mpr fun f _ => carried_tick h now f)
  · rw [tick_eq, hOthers]
    exact tickRun_bubbleCount h now

/-- Without a provider the host does not even look through its bubbles. -/
theorem bubbles_start (h : Host) (request : StartRequest) (now : Nanos) :
    (h.perform (.start request) now).1.bubbles = h.bubbles.filter (Op.keeps (.start request) h now) ∧
      (h.perform (.start request) now).1.bubbleCount = h.bubbleCount := by
  show _ = h.bubbles.filter (fun f => !((request.provider <|> h.provider).isSome && f.isGone now)) ∧ _
  cases hProvider : request.provider <|> h.provider with
  | none =>
    have hSame : (h.perform (.start request) now).1 = h := by simp only [perform, start, hProvider]
    rw [hSame]
    exact ⟨(List.filter_true _).symm, rfl⟩
  | some provider =>
    have hStarted : (h.perform (.start request) now).1 = (h.startWith provider request now).1 := by
      simp only [perform, start, hProvider]
    rw [hStarted]
    exact startWith_bubbles h provider request now

theorem start_bubbles (h : Host) (request : StartRequest) (now : Nanos) :
    Carrying h (.start request) now (h.perform (.start request) now).1 :=
  .idle rfl (fun _ _ => rfl) (bubbles_start h request now).1 (bubbles_start h request now).2

theorem bubbles_handle (h : Host) (e : Event) (now : Nanos) :
    (h.handle e now).1.bubbles = h.bubbles.filter fun f => !f.isGone now := by
  unfold handle
  split
  · rfl
  · dsimp only [reap]
    rw [settle_bubbles]

theorem handle_bubbles (h : Host) (e : Event) (now : Nanos) :
    Carrying h (.handle e) now (h.perform (.handle e) now).1 := by
  refine .idle rfl (fun _ _ => rfl) (bubbles_handle h e now) ?_
  show (h.handle e now).1.bubbleCount = h.bubbleCount
  unfold handle
  split
  · rfl
  · exact settle_bubbleCount ..

theorem bubbles_draw (h : Host) (area : Rect) (b : Buffer) (now : Nanos) :
    (h.draw area b now).1.bubbles = (drawBubbles area h.anchors now h.bubbles b).1 := by
  unfold draw
  dsimp only
  split
  · rfl
  · exact settle_bubbles ..

theorem draw_bubbles (h : Host) (area : Rect) (b : Buffer) (now : Nanos) :
    Carrying h (.draw area b) now (h.perform (.draw area b) now).1 := by
  refine ⟨⟨_, (bubbles_draw h area b now).trans (List.append_nil _).symm, ?_⟩, ?_⟩
  · show List.Forall₂ _ (h.bubbles.filter fun _ => true) _
    rw [List.filter_true]
    exact carried_draw (fun _ _ => rfl) area h.anchors now b
  · show (h.draw area b now).1.bubbleCount = h.bubbleCount
    unfold draw
    dsimp only
    split
    · rfl
    · exact settle_bubbleCount ..

/-- An operation that keeps all bubbles as they are. -/
theorem Carrying.untouched {h after : Host} {op : Op} {now : Nanos} (hShown : op.shown h now = [])
    (hKeeps : op.keeps h now = fun _ => true)
    (hEnds : ∀ f : FloatingBubble, (h.moment op now).ends f.id f.expiresAt = false)
    (hBubbles : after.bubbles = h.bubbles) (hCount : after.bubbleCount = h.bubbleCount) : Carrying h op now after := by
  refine .idle hShown (fun f _ => hEnds f) ?_ hCount
  rw [hKeeps, List.filter_true, hBubbles]

theorem bubbles_step (h : Host) (id : RunId) (now : Nanos) :
    (h.perform (.step id) now).1.bubbles = h.bubbles ∧
      (h.perform (.step id) now).1.bubbleCount = h.bubbleCount := by
  rcases reach_cases h id with ⟨run, -, hReach⟩ | ⟨-, hReach⟩
  · have hStep : (h.perform (.step id) now).1 =
        (h.settle id (run.advance .explicit now).1 (run.advance .explicit now).2.2).1 := by
      simp only [perform, hReach, stepThrough]
    rw [hStep]
    exact ⟨settle_bubbles .., settle_bubbleCount ..⟩
  · have hStep : (h.perform (.step id) now).1 = h := by simp only [perform, hReach, stepThrough]
    rw [hStep]
    exact ⟨rfl, rfl⟩

theorem step_bubbles (h : Host) (id : RunId) (now : Nanos) :
    Carrying h (.step id) now (h.perform (.step id) now).1 :=
  .untouched rfl rfl (fun _ => rfl) (bubbles_step h id now).1 (bubbles_step h id now).2

theorem bubbles_dismiss (h : Host) (id : RunId) (now : Nanos) :
    (h.perform (.dismiss id) now).1.bubbles = h.bubbles ∧
      (h.perform (.dismiss id) now).1.bubbleCount = h.bubbleCount := by
  have hDismiss : ∃ active, (h.perform (.dismiss id) now).1 = { h with active := active } := by
    rcases reach_cases h id with ⟨run, -, hReach⟩ | ⟨-, hReach⟩
    · simp only [perform, hReach, dismissThrough]
      exact ⟨_, rfl⟩
    · simp only [perform, hReach, dismissThrough]
      exact ⟨_, rfl⟩
  obtain ⟨active, hDismiss⟩ := hDismiss
  rw [hDismiss]
  exact ⟨rfl, rfl⟩

theorem dismiss_bubbles (h : Host) (id : RunId) (now : Nanos) :
    Carrying h (.dismiss id) now (h.perform (.dismiss id) now).1 :=
  .untouched rfl rfl (fun _ => rfl) (bubbles_dismiss h id now).1 (bubbles_dismiss h id now).2

theorem remove_bubbles (h : Host) (id : BubbleId) (now : Nanos) :
    Carrying h (.removeBubble id) now (h.perform (.removeBubble id) now).1 := by
  refine ⟨⟨_, (List.append_nil _).symm, ?_⟩, rfl⟩
  show List.Forall₂ _ (h.bubbles.filter fun _ => true) _
  rw [List.filter_true]
  refine List.forall₂_map_right_iff.mpr (List.forall₂_same.mpr fun f _ => ?_)
  by_cases hThis : f.id = id
  · rw [if_pos hThis]
    exact .removed (decide_eq_true hThis.symm) ⟨_, rfl⟩
  · rw [if_neg hThis]
    exact .idle (decide_eq_false fun hSame => hThis hSame.symm) ⟨_, _, rfl⟩

theorem perform_bubbles (h : Host) (op : Op) (now : Nanos) : Carrying h op now (h.perform op now).1 := by
  cases op with
  | start request => exact start_bubbles h request now
  | handle e => exact handle_bubbles h e now
  | tick => exact tick_bubbles h now
  | draw area b => exact draw_bubbles h area b now
  | disappear =>
    have hNone : h.bubbles.filter (Op.disappear.keeps h now) = [] := List.filter_false _
    refine .idle rfl (fun f hf => ?_) hNone.symm rfl
    rw [hNone] at hf
    exact absurd hf List.not_mem_nil
  | step id => exact step_bubbles h id now
  | dismiss id => exact dismiss_bubbles h id now
  | showBubble own options =>
    refine ⟨⟨h.bubbles, rfl, ?_⟩, rfl⟩
    show List.Forall₂ _ (h.bubbles.filter fun _ => true) _
    rw [List.filter_true]
    exact carried_all fun _ _ => rfl
  | removeBubble id => exact remove_bubbles h id now
  | arrange anchors => exact .untouched rfl rfl (fun _ => rfl) rfl rfl
  | revise index view => exact .untouched rfl rfl (fun _ => rfl) rfl rfl
  | alter store disk => exact .untouched rfl rfl (fun _ => rfl) rfl rfl

/-! ## What a tick and a frame do with them -/

/-- A tick runs the callbacks in order, and each one says its text. -/
theorem tick_rings (h : Host) (now : Nanos) :
    h.perform .tick now = (((h.ready now).runCallbacks now ((h.called .tick now).map (·.2))).1,
      (h.tickRun now).2 ++ (h.called .tick now).map fun call => .callback call.2.text) := by
  show h.tick now = _
  rw [tick_eq, (runCallbacks_eq ..).2, List.map_map]
  rfl

theorem drawBubbles_without {now : Nanos} {bubbles : List FloatingBubble} {stays : FloatingBubble → Bool}
    (hGone : ∀ f ∈ bubbles, stays f = false → f.isGone now = true) (area : Rect) (anchors : Anchors) (b : Buffer) :
    (drawBubbles area anchors now bubbles b).2 = (drawBubbles area anchors now (bubbles.filter stays) b).2 := by
  induction bubbles generalizing b with
  | nil => rfl
  | cons f rest ih =>
    have hRest := fun b => ih (fun g hg => hGone g (List.mem_cons_of_mem f hg)) b
    cases hStays : stays f with
    | false =>
      rw [List.filter_cons_of_neg (by simp [hStays]), ← hRest]
      simp only [drawBubbles]
      rw [FloatingBubble.draw_of_gone (hGone f List.mem_cons_self hStays)]
      rfl
    | true =>
      rw [List.filter_cons_of_pos hStays]
      exact congrArg (fun later : Buffer × List Warning => (later.1, (f.draw area b anchors now).2.2 ++ later.2))
        (hRest (f.draw area b anchors now).2.1)

/-- The picture and the warnings of a frame do not depend on bubbles that have shrunk away. -/
theorem drawn_without_gone {h : Host} {now : Nanos} {stays : FloatingBubble → Bool}
    (hGone : ∀ f ∈ h.bubbles, stays f = false → f.isGone now = true) (area : Rect) (b : Buffer) :
    (h.draw area b now).2 = ({ h with bubbles := h.bubbles.filter stays }.draw area b now).2 := by
  have hSame := drawBubbles_without hGone area h.anchors b
  unfold draw
  dsimp only
  generalize drawBubbles area h.anchors now h.bubbles b = drawn at hSame ⊢
  generalize drawBubbles area h.anchors now (h.bubbles.filter stays) b = others at hSame ⊢
  obtain ⟨bubbles, picture⟩ := drawn
  obtain ⟨kept, picture⟩ := others
  cases hSame
  cases hActive : h.active with
  | none => rfl
  | some held =>
    obtain ⟨id, run⟩ := held
    -- what the walkthrough has to say does not depend on the bubbles below it
    have hSettle := fun bubbles => settle_eq h bubbles id (run.draw area picture.1 h.anchors now).1
      (run.draw area picture.1 h.anchors now).2.2
    rw [hActive] at hSettle
    dsimp only
    rw [hSettle, hSettle]

end Host

end GuidedTour
