import GuidedTour.Proofs.Host.Report
import Mathlib.Data.List.Induction
import Mathlib.Data.List.Nodup

/-!
# Lives of floating bubbles

A chronicle lists the moments of a host: each operation with its reading of the clock and the callbacks that it ran. The
first moment of the chronicle that ends the time of a bubble decides all the rest of its life: until then the bubble is
shown, from then on it shrinks, and 300 milliseconds later there is nothing to see of it. Its callback runs at that
moment if it is a tick at which the bubble's time is up, and at no other.

Main results:

* `Tracked.carry` - one moment goes on with the life of a bubble as the chronicle says.
* `Numbered.ringing` - what a tick does with the callbacks that are due.
* `bubble_lifetime` - the life of every bubble that a host ever shows.
-/

namespace GuidedTour

open Layout Screen Completion Storage

namespace Host

/-! ## Chronicles -/

/-- The host after a sequence of operations. -/
def after (h : Host) (moments : List (Op × Nanos)) : Host := moments.foldl (fun h m => (h.perform m.1 m.2).1) h

/-- The moments of a sequence of operations. -/
def chronicle (h : Host) : List (Op × Nanos) → List Moment
  | [] => []
  | m :: rest => h.moment m.1 m.2 :: chronicle (h.perform m.1 m.2).1 rest

theorem after_concat (h : Host) (moments : List (Op × Nanos)) (m : Op × Nanos) :
    h.after (moments ++ [m]) = ((h.after moments).perform m.1 m.2).1 := List.foldl_concat ..

theorem chronicle_concat (h : Host) (moments : List (Op × Nanos)) (m : Op × Nanos) :
    h.chronicle (moments ++ [m]) = h.chronicle moments ++ [(h.after moments).moment m.1 m.2] := by
  induction moments generalizing h with
  | nil => rfl
  | cons first rest ih => exact congrArg (_ :: ·) (ih _)

/-! ## Numbers -/

/-- Bubbles are numbered in the order in which they are shown. -/
structure Numbered (h : Host) : Prop where
  order : (h.bubbles.map (·.id)).Pairwise (· < ·)
  bound : ∀ f ∈ h.bubbles, f.id < h.bubbleCount

theorem Numbered.unique {h : Host} (hNumbered : h.Numbered) {f g : FloatingBubble} (hf : f ∈ h.bubbles)
    (hg : g ∈ h.bubbles) (hSame : f.id = g.id) : f = g :=
  List.inj_on_of_nodup_map (hNumbered.order.imp Nat.ne_of_lt) hf hg hSame

section Carrying

variable {h after : Host} {op : Op} {now : Nanos}

/-- A bubble that is kept is carried on. -/
theorem Carrying.image (hCarry : Carrying h op now after) {f : FloatingBubble} (hf : f ∈ h.bubbles)
    (hKept : op.keeps h now f = true) : ∃ f' ∈ after.bubbles, Carried (h.moment op now) f f' := by
  obtain ⟨carried, hAfter, hPairs⟩ := hCarry.bubbles
  obtain ⟨i, hi, hThis⟩ := List.mem_iff_getElem.mp (List.mem_filter.mpr ⟨hf, hKept⟩)
  have hi' : i < carried.length := hPairs.length_eq ▸ hi
  refine ⟨carried[i], ?_, ?_⟩
  · rw [hAfter]
    exact List.mem_append_left _ (List.getElem_mem hi')
  · rw [← hThis]
    exact hPairs.get hi hi'

/-- A bubble that the host has afterwards was shown just now, or is carried on from before. -/
theorem Carrying.source (hCarry : Carrying h op now after) {f' : FloatingBubble} (hf' : f' ∈ after.bubbles) :
    f' ∈ op.shown h now ∨ ∃ f ∈ h.bubbles, op.keeps h now f = true ∧ Carried (h.moment op now) f f' := by
  obtain ⟨carried, hAfter, hPairs⟩ := hCarry.bubbles
  rw [hAfter] at hf'
  rcases List.mem_append.mp hf' with hOld | hNew
  · obtain ⟨i, hi', rfl⟩ := List.mem_iff_getElem.mp hOld
    have hi : i < (h.bubbles.filter (op.keeps h now)).length := hPairs.length_eq ▸ hi'
    obtain ⟨hBefore, hKept⟩ := List.mem_filter.mp (List.getElem_mem hi)
    exact .inr ⟨_, hBefore, hKept, hPairs.get hi hi'⟩
  · exact .inl hNew

theorem shown_id {f : FloatingBubble} (hf : f ∈ op.shown h now) : f.id = h.bubbleCount := by
  cases op with
  | showBubble own options =>
    cases List.mem_singleton.mp hf
    rfl
  | _ => exact absurd hf List.not_mem_nil

theorem Numbered.carry (hNumbered : h.Numbered) (hCarry : Carrying h op now after) : after.Numbered := by
  refine ⟨?_, fun f' hf' => ?_⟩
  · obtain ⟨carried, hAfter, hPairs⟩ := hCarry.bubbles
    have hIds : List.Forall₂ (· = ·) ((h.bubbles.filter (op.keeps h now)).map (·.id)) (carried.map (·.id)) :=
      List.forall₂_map_left_iff.mpr (List.forall₂_map_right_iff.mpr (hPairs.imp fun _ _ hCarried => hCarried.id.symm))
    rw [List.forall₂_eq_eq_eq] at hIds
    -- those that are kept keep their order, and a new one has the highest number of all
    rw [hAfter, List.map_append, ← hIds]
    refine List.pairwise_append.mpr ⟨?_, ?_, ?_⟩
    · exact hNumbered.order.sublist (List.filter_sublist.map _)
    · cases op <;> first | exact .nil | exact List.pairwise_singleton ..
    · intro a ha b hb
      obtain ⟨f, hf, rfl⟩ := List.mem_map.mp ha
      obtain ⟨g, hg, rfl⟩ := List.mem_map.mp hb
      rw [shown_id hg]
      exact hNumbered.bound f (List.mem_filter.mp hf).1
  · rw [hCarry.count]
    rcases hCarry.source hf' with hNew | ⟨f, hf, -, hCarried⟩
    · rw [shown_id hNew]
      exact Nat.lt_add_of_pos_right (List.length_pos_of_mem hNew)
    · rw [hCarried.id]
      exact Nat.lt_add_right _ (hNumbered.bound f hf)

end Carrying

/-! ## Callbacks of a moment -/

/-- A callback runs at a tick at which the time of its bubble is up. -/
theorem mem_called {h : Host} {op : Op} {now : Nanos} {id : BubbleId} {c : BubbleCallback} :
    (id, c) ∈ h.called op now ↔
      op = .tick ∧ ∃ f ∈ h.bubbles, f.id = id ∧ f.isDue now = true ∧ f.onFinished = some c := by
  cases op with
  | tick =>
    have hExpire : ∀ f : FloatingBubble, (f.expire now).2 = some c ↔ f.isDue now = true ∧ f.onFinished = some c := by
      intro f
      cases hDue : f.isDue now with
      | true => simp [FloatingBubble.expire_of_due hDue]
      | false => simp [FloatingBubble.expire_of_early hDue]
    simp only [called, List.mem_filterMap, Option.map_eq_some_iff, Prod.mk.injEq, true_and]
    constructor
    · rintro ⟨f, hf, c', hCall, rfl, rfl⟩
      exact ⟨f, hf, rfl, (hExpire f).mp hCall⟩
    · rintro ⟨f, hf, rfl, hCall⟩
      exact ⟨f, hf, c, (hExpire f).mpr hCall, rfl, rfl⟩
  | _ =>
    refine ⟨fun hCall => absurd hCall List.not_mem_nil, ?_⟩
    rintro ⟨hTick, -⟩
    cases hTick

/-- Callbacks run in the order in which their bubbles were shown. -/
theorem called_order {h : Host} (hNumbered : h.Numbered) (op : Op) (now : Nanos) :
    ((h.called op now).map (·.1)).Pairwise (· < ·) := by
  cases op with
  | tick =>
    rw [called, List.pairwise_map, List.pairwise_filterMap]
    refine (List.pairwise_map.mp hNumbered.order).imp fun hLess first hFirst second hSecond => ?_
    obtain ⟨c, -, rfl⟩ := Option.map_eq_some_iff.mp hFirst
    obtain ⟨d, -, rfl⟩ := Option.map_eq_some_iff.mp hSecond
    exact hLess
  | _ => exact .nil

/-- Before the callbacks of a tick begin, all bubbles whose time is up have been removed. -/
theorem ready_hides {h : Host} (hNumbered : h.Numbered) {now : Nanos} {f : FloatingBubble} (hf : f ∈ h.bubbles)
    (hDue : f.isDue now = true) : (h.ready now).isVisible f.id = false := by
  rw [isVisible, List.any_eq_false]
  intro g hg
  obtain ⟨before, hBefore, rfl⟩ := List.mem_map.mp (List.mem_filter.mp hg).1
  rw [Bool.and_eq_true, decide_eq_true_eq, before.id_expire]
  rintro ⟨hSame, hShown⟩
  obtain rfl := hNumbered.unique hBefore hf hSame
  rw [FloatingBubble.expire_of_due hDue] at hShown
  have hRemoved : FloatingBubble.isRemoved { before.remove now with onFinished := none } = true :=
    before.isRemoved_remove now
  rw [hRemoved] at hShown
  cases hShown

/-! ## One life -/

/-- What is known of a bubble after some moments since it was shown: before the first one that ends its time it is held
as it was shown, and afterwards, as long as it is held, it is bound to be gone 300 milliseconds later. -/
structure Tracked (id : BubbleId) (due : Option Nanos) (callback : Option BubbleCallback) (life : List Moment)
    (h : Host) : Prop where
  numbered : h.Numbered
  issued   : id < h.bubbleCount
  alive    : life.find? (·.ends id due) = none →
    ∃ f ∈ h.bubbles, f.id = id ∧ f.expiresAt = due ∧ f.onFinished = callback ∧ f.goneAt = none
  ended    : ∀ m, life.find? (·.ends id due) = some m →
    ∀ f ∈ h.bubbles, f.id = id → f.goneAt = some (m.now + bubbleRemoval)
  uncalled : life.find? (·.ends id due) = none → id ∉ (life.flatMap (·.called)).map (·.1)
  once     : ((life.flatMap (·.called)).map (·.1)).count id ≤ 1

section Tracking

variable {id : BubbleId} {due : Option Nanos} {callback : Option BubbleCallback} {life : List Moment} {h after : Host}
  {op : Op} {now : Nanos}

theorem Numbered.tracked (hNumbered : h.Numbered) (own : Step) (options : BubbleOptions) (since : Nanos) :
    Tracked (h.showBubble own options since).2 (options.duration.map (since + ·)) options.onFinished []
      (h.perform (.showBubble own options) since).1 where
  numbered := hNumbered.carry (perform_bubbles h (.showBubble own options) since)
  issued := Nat.lt_succ_self _
  alive := fun _ => ⟨_, List.mem_append_right _ (List.mem_singleton_self _), rfl, rfl, rfl, rfl⟩
  ended := fun _ hNever => nomatch hNever
  uncalled := fun _ => List.not_mem_nil
  once := Nat.zero_le _

theorem Tracked.mem_called_iff (hTracked : Tracked id due callback life h) {c : BubbleCallback} :
    (id, c) ∈ h.called op now ↔
      op = .tick ∧ callback = some c ∧ due.any (· ≤ now) = true ∧ life.find? (·.ends id due) = none := by
  rw [mem_called]
  constructor
  · rintro ⟨hTick, f, hf, hId, hDue, hCallback⟩
    rw [FloatingBubble.isDue, Bool.and_eq_true, Bool.not_eq_true'] at hDue
    cases hEnd : life.find? (·.ends id due) with
    | none =>
      obtain ⟨g, hg, hSame, hExpires, hFinished, -⟩ := hTracked.alive hEnd
      obtain rfl := hTracked.numbered.unique hf hg (hId.trans hSame.symm)
      exact ⟨hTick, hFinished ▸ hCallback, hExpires ▸ hDue.2, rfl⟩
    | some m =>
      -- a bubble that was removed is not due
      have hGone := hTracked.ended m hEnd f hf hId
      rw [FloatingBubble.isRemoved, hGone] at hDue
      cases hDue.1
  · rintro ⟨hTick, hCallback, hDue, hEnd⟩
    obtain ⟨f, hf, hId, hExpires, hFinished, hShown⟩ := hTracked.alive hEnd
    refine ⟨hTick, f, hf, hId, ?_, hFinished.trans hCallback⟩
    rw [FloatingBubble.isDue, FloatingBubble.isRemoved, hShown, hExpires, hDue]
    rfl

/-- A moment that runs the callback ends the time of its bubble. -/
theorem Tracked.ends_of_called (hTracked : Tracked id due callback life h)
    (hCalled : id ∈ (h.called op now).map (·.1)) :
    (h.moment op now).ends id due = true ∧ life.find? (·.ends id due) = none := by
  obtain ⟨⟨other, c⟩, hCall, hThis⟩ := List.mem_map.mp hCalled
  obtain rfl : other = id := hThis
  obtain ⟨rfl, -, hDue, hEnd⟩ := hTracked.mem_called_iff.mp hCall
  refine ⟨?_, hEnd⟩
  show (due.any (· ≤ now) || _) = true
  rw [hDue, Bool.true_or]

theorem keeps_of_shown {f : FloatingBubble} (hShown : f.goneAt = none)
    (hStays : (h.moment op now).ends f.id f.expiresAt = false) : op.keeps h now f = true := by
  have hHere : f.isGone now = false := by rw [FloatingBubble.isGone, hShown]; rfl
  cases op with
  | start request =>
    show (!(_ && f.isGone now)) = true
    rw [hHere, Bool.and_false]
    rfl
  | handle e =>
    show (!f.isGone now) = true
    rw [hHere]
    rfl
  | tick =>
    show (!f.isGone now) = true
    rw [hHere]
    rfl
  | disappear => cases hStays
  | _ => rfl

theorem find?_concat (life : List Moment) (m : Moment) (id : BubbleId) (due : Option Nanos) :
    (life ++ [m]).find? (·.ends id due) =
      (life.find? (·.ends id due)).or (if m.ends id due = true then some m else none) := by
  rw [List.find?_append]
  cases hEnds : m.ends id due <;> simp [hEnds]

theorem called_concat (life : List Moment) (m : Moment) :
    ((life ++ [m]).flatMap (·.called)).map (·.1) = (life.flatMap (·.called)).map (·.1) ++ m.called.map (·.1) := by
  rw [List.flatMap_append, List.map_append, List.flatMap_singleton]

/-- A bubble that the host has under this number was carried on from before. -/
theorem Tracked.source (hTracked : Tracked id due callback life h) (hCarry : Carrying h op now after)
    {f' : FloatingBubble} (hf' : f' ∈ after.bubbles) (hId : f'.id = id) :
    ∃ f ∈ h.bubbles, f.id = id ∧ Carried (h.moment op now) f f' := by
  rcases hCarry.source hf' with hNew | ⟨f, hf, -, hCarried⟩
  · exact absurd (hId.symm.trans (shown_id hNew)) (Nat.ne_of_lt hTracked.issued)
  · exact ⟨f, hf, hCarried.id.symm.trans hId, hCarried⟩

theorem Tracked.alive_carry (hTracked : Tracked id due callback life h) (hCarry : Carrying h op now after)
    (hEarlier : life.find? (·.ends id due) = none) (hStays : (h.moment op now).ends id due = false) :
    ∃ f ∈ after.bubbles, f.id = id ∧ f.expiresAt = due ∧ f.onFinished = callback ∧ f.goneAt = none := by
  obtain ⟨f, hf, rfl, rfl, hFinished, hShown⟩ := hTracked.alive hEarlier
  obtain ⟨f', hf', hCarried⟩ := hCarry.image hf (keeps_of_shown hShown hStays)
  refine ⟨f', hf', hCarried.id, hCarried.expiresAt, (hCarried.onFinished hStays).trans hFinished, ?_⟩
  rw [hCarried.goneAt, hStays, FloatingBubble.isRemoved, hShown]
  rfl

theorem Tracked.ended_carry (hTracked : Tracked id due callback life h) (hCarry : Carrying h op now after) {m : Moment}
    (hEnd : (life ++ [h.moment op now]).find? (·.ends id due) = some m) {f' : FloatingBubble}
    (hf' : f' ∈ after.bubbles) (hId : f'.id = id) : f'.goneAt = some (m.now + bubbleRemoval) := by
  obtain ⟨f, hf, hSame, hCarried⟩ := hTracked.source hCarry hf' hId
  rw [find?_concat] at hEnd
  cases hEarlier : life.find? (·.ends id due) with
  | some first =>
    -- it shrinks already, and its end is fixed
    rw [hEarlier, Option.some_or] at hEnd
    have hGone := hTracked.ended _ (hEarlier.trans hEnd) f hf hSame
    rw [hCarried.goneAt, FloatingBubble.isRemoved, hGone]
    rfl
  | none =>
    -- its end begins at this very moment
    obtain ⟨g, hg, hThis, hExpires, -, hShown⟩ := hTracked.alive hEarlier
    obtain rfl := hTracked.numbered.unique hf hg (hSame.trans hThis.symm)
    rw [hEarlier, Option.none_or] at hEnd
    obtain ⟨hEnds, hMoment⟩ := Option.ite_none_right_eq_some.mp hEnd
    cases hMoment
    rw [hCarried.goneAt, hSame, hExpires, hEnds, FloatingBubble.isRemoved, hShown]
    rfl

theorem Tracked.once_carry (hTracked : Tracked id due callback life h) :
    (((life ++ [h.moment op now]).flatMap (·.called)).map (·.1)).count id ≤ 1 := by
  rw [called_concat, List.count_append]
  show _ + ((h.called op now).map (·.1)).count id ≤ 1
  by_cases hCalled : id ∈ (h.called op now).map (·.1)
  · -- the callback runs now, so it did not run before, and now only once
    have hEarlier := hTracked.uncalled (hTracked.ends_of_called hCalled).2
    have hNodup : ((h.called op now).map (·.1)).Nodup := (called_order hTracked.numbered op now).imp Nat.ne_of_lt
    rw [List.count_eq_zero_of_not_mem hEarlier, Nat.zero_add]
    exact List.nodup_iff_count_le_one.mp hNodup id
  · rw [List.count_eq_zero_of_not_mem hCalled]
    exact hTracked.once

theorem Tracked.carry (hTracked : Tracked id due callback life h) (hCarry : Carrying h op now after) :
    Tracked id due callback (life ++ [h.moment op now]) after := by
  -- as long as nothing has ended its time, the new moment has not either
  have hBoth : (life ++ [h.moment op now]).find? (·.ends id due) = none →
      life.find? (·.ends id due) = none ∧ (h.moment op now).ends id due = false := by
    intro hNone
    rw [find?_concat, Option.or_eq_none_iff] at hNone
    exact ⟨hNone.1, by simpa using hNone.2⟩
  refine ⟨hTracked.numbered.carry hCarry, ?_, fun hNone => ?_, fun m hEnd f' => hTracked.ended_carry hCarry hEnd,
    fun hNone => ?_, hTracked.once_carry⟩
  · rw [hCarry.count]
    exact Nat.lt_add_right _ hTracked.issued
  · obtain ⟨hEarlier, hStays⟩ := hBoth hNone
    exact hTracked.alive_carry hCarry hEarlier hStays
  · obtain ⟨hEarlier, hStays⟩ := hBoth hNone
    rw [called_concat, List.mem_append, not_or]
    refine ⟨hTracked.uncalled hEarlier, fun hCalled => ?_⟩
    exact absurd ((hTracked.ends_of_called hCalled).1.symm.trans hStays) Bool.noConfusion

end Tracking

/-! ## Gone for good -/

/-- The host holds no bubble under a number that was given away. -/
structure Absent (id : BubbleId) (h : Host) : Prop where
  issued : id < h.bubbleCount
  absent : ∀ f ∈ h.bubbles, f.id ≠ id

theorem Absent.after {id : BubbleId} {h : Host} (hAbsent : Absent id h) (moments : List (Op × Nanos)) :
    Absent id (h.after moments) := by
  induction moments generalizing h with
  | nil => exact hAbsent
  | cons m rest ih =>
    have hCarry := perform_bubbles h m.1 m.2
    refine ih ⟨?_, fun f' hf' => ?_⟩
    · rw [hCarry.count]
      exact Nat.lt_add_right _ hAbsent.issued
    · rcases hCarry.source hf' with hNew | ⟨f, hf, -, hCarried⟩
      · rw [shown_id hNew]
        exact Nat.ne_of_gt hAbsent.issued
      · rw [hCarried.id]
        exact hAbsent.absent f hf

/-- An operation that lets go of all bubbles under a number. -/
theorem absent_perform {id : BubbleId} {h : Host} {op : Op} {now : Nanos} (hIssued : id < h.bubbleCount)
    (hDrops : ∀ f ∈ h.bubbles, f.id = id → op.keeps h now f = false) : Absent id (h.perform op now).1 := by
  have hCarry := perform_bubbles h op now
  refine ⟨?_, fun f' hf' hThis => ?_⟩
  · rw [hCarry.count]
    exact Nat.lt_add_right _ hIssued
  · rcases hCarry.source hf' with hNew | ⟨f, hf, hKept, hCarried⟩
    · exact absurd (hThis.symm.trans (shown_id hNew)) (Nat.ne_of_lt hIssued)
    · rw [hDrops f hf (hCarried.id.symm.trans hThis)] at hKept
      cases hKept

/-- Whether a host looks through its bubbles at an operation: at a tick, at an event, and when a walkthrough is to be
started. -/
def Op.reaps (op : Op) (h : Host) : Bool :=
  match op with
  | .start request => (request.provider <|> h.provider).isSome
  | .handle _ | .tick => true
  | _ => false

/-- A bubble that is bound to be gone at a reading of the clock. -/
structure Vanishing (h : Host) (id : BubbleId) (gone : Nanos) : Prop where
  held    : ∀ f ∈ h.bubbles, f.id = id → f.goneAt = some gone
  /-- From then on frames are drawn as if it were not there. -/
  undrawn : ∀ now, gone ≤ now → ∀ area b,
    (h.draw area b now).2 = ({ h with bubbles := h.bubbles.filter (·.id ≠ id) }.draw area b now).2
  /-- The next time that the host looks through its bubbles it lets go of this one, for good. -/
  dropped : ∀ op now, gone ≤ now → op.reaps h = true →
    ∀ more, ∀ f ∈ ((h.perform op now).1.after more).bubbles, f.id ≠ id

theorem Vanishing.of_held {h : Host} {id : BubbleId} {gone : Nanos} (hIssued : id < h.bubbleCount)
    (hHeld : ∀ f ∈ h.bubbles, f.id = id → f.goneAt = some gone) : Vanishing h id gone := by
  have hGone : ∀ now, gone ≤ now → ∀ f ∈ h.bubbles, f.id = id → f.isGone now = true := by
    intro now hLate f hf hThis
    rw [FloatingBubble.isGone, hHeld f hf hThis]
    exact decide_eq_true hLate
  refine ⟨hHeld, fun now hLate area b => drawn_without_gone (fun f hf hOut => ?_) area b,
    fun op now hLate hReaps more => ?_⟩
  · -- what is left out of the picture is this bubble
    exact hGone now hLate f hf (of_decide_eq_false hOut |> Decidable.not_not.mp)
  · refine (absent_perform hIssued fun f hf hThis => ?_).after more |>.absent
    have hOver := hGone now hLate f hf hThis
    cases op with
    | start request =>
      show (!(_ && f.isGone now)) = false
      rw [hOver, Bool.and_true, Bool.not_eq_false']
      exact hReaps
    | handle e =>
      show (!f.isGone now) = false
      rw [hOver]
      rfl
    | tick =>
      show (!f.isGone now) = false
      rw [hOver]
      rfl
    | _ => cases hReaps

/-! ## Every life -/

/-- The life of a bubble, by the moments that its host went through since it was shown. -/
structure Lifetime (first : Host) (id : BubbleId) (due : Option Nanos) (callback : Option BubbleCallback)
    (later : List (Op × Nanos)) : Prop where
  /-- Its callback runs at most once. -/
  once : (((first.chronicle later).flatMap (·.called)).map (·.1)).count id ≤ 1
  /-- The next moment runs it if it is a tick at which the time of the bubble is up, and no moment before has ended that
  time: not a tick, not a removal, not the end of the screen. -/
  call : ∀ op now c, (id, c) ∈ (first.after later).called op now ↔
    op = .tick ∧ callback = some c ∧ (∃ time, due = some time ∧ time ≤ now) ∧
      ∀ m ∈ first.chronicle later, m.ends id due = false
  /-- It is visible until a moment ends its time. -/
  visible : (first.after later).isVisible id = (first.chronicle later).all fun m => !m.ends id due
  /-- The first moment that ends its time says once and for all when it is gone. -/
  vanishing : ∀ m, (first.chronicle later).find? (·.ends id due) = some m →
    Vanishing (first.after later) id (m.now + bubbleRemoval)
  /-- With the screen it is gone at once. -/
  disappeared : ∀ now more, ∀ f ∈ (((first.after later).perform .disappear now).1.after more).bubbles, f.id ≠ id

theorem Tracked.lifetime {first : Host} {id : BubbleId} {due : Option Nanos} {callback : Option BubbleCallback}
    {later : List (Op × Nanos)} (hTracked : Tracked id due callback (first.chronicle later) (first.after later)) :
    Lifetime first id due callback later where
  once := hTracked.once
  call := by
    intro op now c
    rw [hTracked.mem_called_iff, List.find?_eq_none]
    simp only [Bool.not_eq_true, Option.any_eq_true, decide_eq_true_eq]
  visible := by
    rw [isVisible]
    cases hEnd : (first.chronicle later).find? (·.ends id due) with
    | none =>
      obtain ⟨f, hf, hId, -, -, hShown⟩ := hTracked.alive hEnd
      have hAll : ((first.chronicle later).all fun m => !m.ends id due) = true := by
        simpa using hEnd
      rw [hAll, List.any_eq_true]
      refine ⟨f, hf, ?_⟩
      rw [FloatingBubble.isRemoved, hShown, decide_eq_true hId]
      rfl
    | some m =>
      have hSome : ((first.chronicle later).all fun m => !m.ends id due) = false := by
        rw [List.all_eq_false]
        exact ⟨m, List.mem_of_find?_eq_some hEnd, by simpa using List.find?_some hEnd⟩
      rw [hSome, List.any_eq_false]
      intro f hf hVisible
      rw [Bool.and_eq_true, decide_eq_true_eq] at hVisible
      rw [FloatingBubble.isRemoved, hTracked.ended m hEnd f hf hVisible.1] at hVisible
      cases hVisible.2
  vanishing := fun m hEnd => .of_held hTracked.issued (hTracked.ended m hEnd)
  disappeared := fun _ more => ((absent_perform hTracked.issued fun _ _ _ => rfl).after more).absent

/-- A tick of a host and its callbacks. -/
structure Ringing (h : Host) (now : Nanos) : Prop where
  /-- The callbacks run one after the other, each on what the one before has left. -/
  tick  : h.perform .tick now = (((h.ready now).runCallbacks now ((h.called .tick now).map (·.2))).1,
    (h.tickRun now).2 ++ (h.called .tick now).map fun call => .callback call.2.text)
  /-- They run in the order in which their bubbles were shown. -/
  order : ((h.called .tick now).map (·.1)).Pairwise (· < ·)
  /-- By then every bubble whose time is up has been removed. -/
  ready : ∀ f ∈ h.bubbles, f.isDue now = true → (h.ready now).isVisible f.id = false

theorem Numbered.ringing {h : Host} (hNumbered : h.Numbered) (now : Nanos) : Ringing h now where
  tick := tick_rings h now
  order := called_order hNumbered .tick now
  ready := fun _ hf hDue => ready_hides hNumbered hf hDue

theorem after_numbered {h : Host} (hNumbered : h.Numbered) (moments : List (Op × Nanos)) :
    (h.after moments).Numbered := by
  induction moments generalizing h with
  | nil => exact hNumbered
  | cons m rest ih => exact ih (hNumbered.carry (perform_bubbles h m.1 m.2))

theorem after_tracked {h : Host} (hNumbered : h.Numbered) (own : Step) (options : BubbleOptions) (since : Nanos)
    (later : List (Op × Nanos)) :
    Tracked (h.showBubble own options since).2 (options.duration.map (since + ·)) options.onFinished
      ((h.perform (.showBubble own options) since).1.chronicle later)
      ((h.perform (.showBubble own options) since).1.after later) := by
  -- on the moments, from the last one back: what a moment does depends on all that came before
  induction later using List.reverseRecOn with
  | nil => exact hNumbered.tracked own options since
  | append_singleton earlier m ih =>
    rw [chronicle_concat, after_concat]
    exact ih.carry (perform_bubbles _ m.1 m.2)

/--
**Lives of bubbles.** Whatever sequence of operations a host goes through, at any readings of the clock: a tick runs the
callbacks of the bubbles whose time is up in the order in which these were shown, when all of them have been removed;
no other operation runs a callback, and what is said besides comes from the walkthrough's delegate; and every bubble
that the host shows has its life, whatever comes later. Its callback runs at most once, at the first
tick at which its time is up, unless a moment before has ended that time; it is visible until its time is ended, and
gone 300 milliseconds later, when it is not drawn any more and let go of at the first occasion.
-/
theorem bubble_lifetime (store : Store) (disk : Disk) (anchors : Anchors) (provider : Option Provider)
    (before : List (Op × Nanos)) :
    let h := Host.after { store := store, disk := disk, anchors := anchors, provider := provider } before
    (∀ now, Ringing h now) ∧ (∀ op now, Heard h op now) ∧
      ∀ own options since later, Lifetime (h.perform (.showBubble own options) since).1
        (h.showBubble own options since).2 (options.duration.map (since + ·)) options.onFinished later := by
  intro h
  have hNumbered : h.Numbered := after_numbered ⟨.nil, fun _ hf => absurd hf List.not_mem_nil⟩ before
  exact ⟨hNumbered.ringing, perform_heard h,
    fun own options since later => (after_tracked hNumbered own options since later).lifetime⟩

/-- Two bubbles are due at one tick. The callback of the first one removes the second one, whose callback runs all the
same, and neither runs at the next tick. -/
example :
    let first : BubbleOptions := { duration := some 5, onFinished := some ⟨[1], "first"⟩ }
    let second : BubbleOptions := { duration := some 3, onFinished := some ⟨[], "second"⟩ }
    let own : Step := .centered default .zero
    ((chronicle {}
      [(.showBubble own first, 0), (.showBubble own second, 1), (.tick, 3), (.tick, 6), (.tick, 7)]).map
        fun m => m.called.map (·.1)) = [[], [], [], [0, 1], []] := by decide

end Host

end GuidedTour
