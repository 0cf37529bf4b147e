import GuidedTour.Proofs.Host.Lifetime
import Mathlib.Data.List.Sort

/-!
# Bubbles that stay

A bubble without a duration stays until it is removed by hand, by a callback, or with the screen. Where nobody removes
bubbles by hand and the screen stays, only the callbacks of timed bubbles are left: such a bubble either waits for the
callback of a timed bubble that is still shown, or it stays for good. `Staying` keeps the account of both. Once a tick
comes when the time of all timed bubbles is up, those that stay for good are all that is left.

Main results:

* `Staying.carry`, `Staying.after` - operations that neither show nor remove bubbles keep the account.
* `Staying.showLasting`, `Staying.showTimed` - so does a bubble that is shown, with what its callback will remove.
* `Staying.tick_left` - what is left after a tick when the time of all timed bubbles is up.
-/

namespace GuidedTour.Host

/-- The host shows the bubble; one that shrinks is not shown any more. -/
def Shows (h : Host) (f : FloatingBubble) : Prop := f ∈ h.bubbles ∧ f.isRemoved = false

/-- The bubbles that a host shows. -/
def visibleIds (h : Host) : List BubbleId := (h.bubbles.filter (!·.isRemoved)).map (·.id)

theorem length_visibleIds (h : Host) : h.visibleIds.length = h.visibleCount := List.length_map ..

/-- Whether an operation leaves it to the bubbles how long they are shown. -/
def Op.leaves : Op → Bool
  | .disappear | .showBubble _ _ | .removeBubble _ => false
  | _ => true

/-- What is the same of a bubble as long as it is shown. -/
structure Continues (f f' : FloatingBubble) : Prop where
  id         : f'.id = f.id
  expiresAt  : f'.expiresAt = f.expiresAt
  onFinished : f'.onFinished = f.onFinished

/-! ## Moments that leave the bubbles alone -/

section Moments

variable {h h' : Host} {op : Op} {now : Nanos} {f f' : FloatingBubble}

/-- A bubble is still shown if the moment does not end its time. -/
theorem Shows.image (hf : h.Shows f) (hCarry : Carrying h op now h')
    (hStays : (h.moment op now).ends f.id f.expiresAt = false) : ∃ f', h'.Shows f' ∧ Continues f f' := by
  obtain ⟨f', hf', hCarried⟩ := hCarry.image hf.1 (keeps_of_shown (FloatingBubble.goneAt_of_shown hf.2) hStays)
  refine ⟨f', ⟨hf', ?_⟩, hCarried.id, hCarried.expiresAt, hCarried.onFinished hStays⟩
  rw [FloatingBubble.isRemoved, hCarried.goneAt, hf.2, hStays]
  rfl

/-- A bubble that is shown afterwards was shown before, and the moment has not ended its time. -/
theorem Shows.source (hf' : h'.Shows f') (hCarry : Carrying h op now h') (hShown : op.shown h now = []) :
    ∃ f, h.Shows f ∧ (h.moment op now).ends f.id f.expiresAt = false ∧ Continues f f' := by
  rcases hCarry.source hf'.1 with hNew | ⟨f, hf, -, hCarried⟩
  · rw [hShown] at hNew
    exact absurd hNew List.not_mem_nil
  · have hGone := (FloatingBubble.goneAt_of_shown hf'.2).symm.trans hCarried.goneAt
    cases hRemoved : f.isRemoved with
    | true =>
      rw [hRemoved, if_pos rfl] at hGone
      rw [FloatingBubble.isRemoved, ← hGone] at hRemoved
      cases hRemoved
    | false =>
      cases hEnds : (h.moment op now).ends f.id f.expiresAt with
      | true =>
        rw [hRemoved, hEnds] at hGone
        cases hGone
      | false => exact ⟨f, ⟨hf, hRemoved⟩, hEnds, hCarried.id, hCarried.expiresAt, hCarried.onFinished hEnds⟩

theorem shown_of_leaves (hLeaves : op.leaves = true) : op.shown h now = [] := by
  cases op <;> first | rfl | cases hLeaves

/-- Such a moment ends the time of a bubble only if this is up, or if the callback of another one removes it whose time
is up. -/
theorem ends_of_leaves (hLeaves : op.leaves = true) {id : BubbleId} {due : Option Nanos}
    (hEnds : (h.moment op now).ends id due = true) : op = .tick ∧ (due.any (· ≤ now) = true ∨
      ∃ g, h.Shows g ∧ g.expiresAt.any (· ≤ now) = true ∧ ∃ c ∈ g.onFinished, id ∈ c.removes) := by
  cases op with
  | tick =>
    refine ⟨rfl, ?_⟩
    rcases Bool.or_eq_true_iff.mp hEnds with hDue | hCalled
    · exact .inl hDue
    · obtain ⟨⟨caller, c⟩, hCall, hRemoves⟩ := List.any_eq_true.mp hCalled
      obtain ⟨-, g, hg, -, hDue, hFinished⟩ := mem_called.mp (show (caller, c) ∈ h.called .tick now from hCall)
      rw [FloatingBubble.isDue, Bool.and_eq_true, Bool.not_eq_true'] at hDue
      exact .inr ⟨g, ⟨hg, hDue.1⟩, hDue.2, c, hFinished, of_decide_eq_true hRemoves⟩
  | disappear => cases hLeaves
  | showBubble own options => cases hLeaves
  | removeBubble other => cases hLeaves
  | _ => cases hEnds

/-- At a tick every callback of a bubble whose time is up removes what it is to remove. -/
theorem ends_of_callback {g : FloatingBubble} (hg : h.Shows g) (hDue : g.expiresAt.any (· ≤ now) = true)
    {c : BubbleCallback} (hc : c ∈ g.onFinished) {id : BubbleId} (hRemoves : id ∈ c.removes) (due : Option Nanos) :
    (h.moment .tick now).ends id due = true := by
  have hCall : (g.id, c) ∈ h.called .tick now := by
    refine mem_called.mpr ⟨rfl, g, hg.1, rfl, ?_, hc⟩
    rw [FloatingBubble.isDue, hg.2, hDue]
    rfl
  exact Bool.or_eq_true_iff.mpr (.inr (List.any_eq_true.mpr ⟨_, hCall, decide_eq_true hRemoves⟩))

end Moments

/-! ## The account -/

/-- The account of the bubbles without a duration that a host shows: `stays` are those that no callback removes. The time
of all others is up at `limit`, or they wait for the callback of one of these. -/
structure Staying (stays : List BubbleId) (limit : Nanos) (h : Host) : Prop where
  numbered : h.Numbered
  order    : stays.Pairwise (· < ·)
  held     : ∀ id ∈ stays, ∃ f, h.Shows f ∧ f.id = id ∧ f.expiresAt = none
  timed    : ∀ f, h.Shows f → ∀ due ∈ f.expiresAt, due ≤ limit
  waits    : ∀ f, h.Shows f → f.expiresAt = none → f.id ∈ stays ∨
    ∃ g, h.Shows g ∧ g.expiresAt ≠ none ∧ ∃ c ∈ g.onFinished, f.id ∈ c.removes
  /-- Callbacks remove other bubbles only, and these have no duration either. -/
  removes  : ∀ g, h.Shows g → ∀ c ∈ g.onFinished, ∀ id ∈ c.removes,
    id ∉ stays ∧ id < h.bubbleCount ∧ ∀ f ∈ h.bubbles, f.id = id → f.expiresAt = none

namespace Staying

variable {stays taken : List BubbleId} {limit now : Nanos} {h h' : Host} {op : Op}

/-- A host without bubbles. -/
theorem empty (hNone : h.bubbles = []) (limit : Nanos) : Staying [] limit h := by
  have hNothing : ∀ f, ¬ h.Shows f := by
    intro f hf
    rw [Shows, hNone] at hf
    exact List.not_mem_nil hf.1
  refine ⟨⟨?_, ?_⟩, .nil, List.forall_mem_nil _, ?_, ?_, ?_⟩
  · rw [hNone]
    exact .nil
  · rw [hNone]
    exact List.forall_mem_nil _
  · exact fun f hf => absurd hf (hNothing f)
  · exact fun f hf => absurd hf (hNothing f)
  · exact fun f hf => absurd hf (hNothing f)

/-- What stays is no bubble's to remove. -/
theorem spared (hStaying : Staying stays limit h) (hLeaves : op.leaves = true) {id : BubbleId} (hId : id ∈ stays) :
    (h.moment op now).ends id none = false := by
  refine Bool.eq_false_iff.mpr fun hEnds => ?_
  obtain ⟨-, hDue | ⟨g, hg, -, c, hc, hRemoves⟩⟩ := ends_of_leaves hLeaves hEnds
  · cases hDue
  · exact (hStaying.removes g hg c hc id hRemoves).1 hId

/-- The callback of a bubble outlasts every moment that does not run it. -/
theorem caller (hStaying : Staying stays limit h) (hCarry : Carrying h op now h') (hLeaves : op.leaves = true)
    {f g : FloatingBubble} (hf : (h.moment op now).ends f.id f.expiresAt = false) (hg : h.Shows g)
    (hTimed : g.expiresAt ≠ none) {c : BubbleCallback} (hc : c ∈ g.onFinished) (hRemoves : f.id ∈ c.removes) :
    ∃ g', h'.Shows g' ∧ Continues g g' := by
  refine hg.image hCarry (Bool.eq_false_iff.mpr fun hEnds => ?_)
  obtain ⟨rfl, hDue | ⟨other, hOther, -, c', hc', hRemoved⟩⟩ := ends_of_leaves hLeaves hEnds
  · -- its time is up, so its callback runs now
    cases hf.symm.trans (ends_of_callback hg hDue hc hRemoves f.expiresAt)
  · -- no callback removes a bubble that has a duration
    exact hTimed ((hStaying.removes other hOther c' hc' g.id hRemoved).2.2 g hg.1 rfl)

/-- A moment that leaves the bubbles alone keeps the account. -/
theorem carry (hStaying : Staying stays limit h) (hCarry : Carrying h op now h') (hLeaves : op.leaves = true) :
    Staying stays limit h' where
  numbered := hStaying.numbered.carry hCarry
  order := hStaying.order
  held := by
    intro id hId
    obtain ⟨f, hf, rfl, hUntimed⟩ := hStaying.held id hId
    have hStays : (h.moment op now).ends f.id none = false := hStaying.spared hLeaves hId
    rw [← hUntimed] at hStays
    obtain ⟨f', hf', hSame⟩ := hf.image hCarry hStays
    exact ⟨f', hf', hSame.id, hSame.expiresAt.trans hUntimed⟩
  timed := by
    intro f' hf' due hDue
    obtain ⟨f, hf, -, hSame⟩ := hf'.source hCarry (shown_of_leaves hLeaves)
    exact hStaying.timed f hf due (hSame.expiresAt ▸ hDue)
  waits := by
    intro f' hf' hUntimed
    obtain ⟨f, hf, hStays, hSame⟩ := hf'.source hCarry (shown_of_leaves hLeaves)
    rw [hSame.id]
    refine (hStaying.waits f hf (hSame.expiresAt.symm.trans hUntimed)).imp_right ?_
    rintro ⟨g, hg, hTimed, c, hc, hRemoves⟩
    obtain ⟨g', hg', hSameCaller⟩ := hStaying.caller hCarry hLeaves hStays hg hTimed hc hRemoves
    exact ⟨g', hg', hSameCaller.expiresAt ▸ hTimed, c, hSameCaller.onFinished ▸ hc, hRemoves⟩
  removes := by
    intro g' hg' c hc id hRemoves
    obtain ⟨g, hg, -, hSame⟩ := hg'.source hCarry (shown_of_leaves hLeaves)
    obtain ⟨hOther, hIssued, hUntimed⟩ := hStaying.removes g hg c (hSame.onFinished ▸ hc) id hRemoves
    refine ⟨hOther, ?_, fun f' hf' hThis => ?_⟩
    · rw [hCarry.count]
      exact Nat.lt_add_right _ hIssued
    · rcases hCarry.source hf' with hNew | ⟨f, hf, -, hCarried⟩
      · rw [shown_of_leaves hLeaves] at hNew
        exact absurd hNew List.not_mem_nil
      · exact hCarried.expiresAt.trans (hUntimed f hf (hCarried.id.symm.trans hThis))

/-- So do any number of them. -/
theorem after (hStaying : Staying stays limit h) {moments : List (Op × Nanos)}
    (hLeaves : ∀ m ∈ moments, m.1.leaves = true) : Staying stays limit (h.after moments) := by
  induction moments generalizing h with
  | nil => exact hStaying
  | cons m rest ih =>
    obtain ⟨hFirst, hRest⟩ := List.forall_mem_cons.mp hLeaves
    exact ih (hStaying.carry (perform_bubbles h m.1 m.2) hFirst) hRest

/-! ## Bubbles that are shown -/

variable {own : Step} {options : BubbleOptions}

theorem shows_new (h : Host) (own : Step) (options : BubbleOptions) (now : Nanos) :
    (h.showBubble own options now).1.Shows (.shown h.bubbleCount own options now) :=
  ⟨List.mem_append_right _ (List.mem_singleton_self _), rfl⟩

theorem shows_old {f : FloatingBubble} (hf : h.Shows f) (own : Step) (options : BubbleOptions) (now : Nanos) :
    (h.showBubble own options now).1.Shows f :=
  ⟨List.mem_append_left _ hf.1, hf.2⟩

theorem mem_showBubble {f : FloatingBubble} (hf : f ∈ (h.showBubble own options now).1.bubbles) :
    f ∈ h.bubbles ∨ f = .shown h.bubbleCount own options now :=
  (List.mem_append.mp hf).imp_right List.mem_singleton.mp

theorem shows_showBubble {f : FloatingBubble} (hf : (h.showBubble own options now).1.Shows f) :
    h.Shows f ∨ f = .shown h.bubbleCount own options now :=
  (mem_showBubble hf.1).imp_left fun hOld => ⟨hOld, hf.2⟩

theorem issued (hStaying : Staying stays limit h) {id : BubbleId} (hId : id ∈ stays) : id < h.bubbleCount := by
  obtain ⟨f, hf, rfl, -⟩ := hStaying.held id hId
  exact hStaying.numbered.bound f hf.1

/-- What is said of a bubble that a callback removes is not said of one that is shown afterwards. -/
theorem untimed_showBubble {id : BubbleId} (hIssued : id < h.bubbleCount)
    (hUntimed : ∀ f ∈ h.bubbles, f.id = id → f.expiresAt = none) :
    ∀ f ∈ (h.showBubble own options now).1.bubbles, f.id = id → f.expiresAt = none := by
  intro f hf hThis
  rcases mem_showBubble hf with hOld | rfl
  · exact hUntimed f hOld hThis
  · exact absurd hThis (Nat.ne_of_gt hIssued)

/-- A bubble without a duration stays. -/
theorem showLasting (hStaying : Staying stays limit h) (hDuration : options.duration = none)
    (hQuiet : options.onFinished = none) :
    Staying (stays ++ [h.bubbleCount]) limit (h.showBubble own options now).1 where
  numbered := hStaying.numbered.carry (perform_bubbles h (.showBubble own options) now)
  order := by
    -- bubbles are numbered in the order in which they are shown
    refine List.pairwise_append.mpr ⟨hStaying.order, List.pairwise_singleton .., fun id hId new hNew => ?_⟩
    rw [List.mem_singleton.mp hNew]
    exact hStaying.issued hId
  held := by
    intro id hId
    rcases List.mem_append.mp hId with hOld | hNew
    · obtain ⟨f, hf, hThis⟩ := hStaying.held id hOld
      exact ⟨f, shows_old hf own options now, hThis⟩
    · refine ⟨_, shows_new h own options now, (List.mem_singleton.mp hNew).symm, ?_⟩
      show options.duration.map _ = none
      rw [hDuration, Option.map_none]
  timed := by
    intro f hf due hDue
    rcases shows_showBubble hf with hOld | rfl
    · exact hStaying.timed f hOld due hDue
    · have hNone : options.duration.map (now + ·) = some due := hDue
      rw [hDuration] at hNone
      cases hNone
  waits := by
    intro f hf hUntimed
    rcases shows_showBubble hf with hOld | rfl
    · refine (hStaying.waits f hOld hUntimed).imp (List.mem_append_left _) ?_
      rintro ⟨g, hg, hCaller⟩
      exact ⟨g, shows_old hg own options now, hCaller⟩
    · exact .inl (List.mem_append_right _ (List.mem_singleton_self _))
  removes := by
    intro g hg c hc id hRemoves
    rcases shows_showBubble hg with hOld | rfl
    · obtain ⟨hOther, hIssued, hUntimed⟩ := hStaying.removes g hOld c hc id hRemoves
      refine ⟨fun hId => ?_, Nat.lt_succ_of_lt hIssued, untimed_showBubble hIssued hUntimed⟩
      rcases List.mem_append.mp hId with hStays | hNew
      · exact hOther hStays
      · exact Nat.ne_of_lt hIssued (List.mem_singleton.mp hNew)
    · have hNone : options.onFinished = some c := hc
      rw [hQuiet] at hNone
      cases hNone

/-- A bubble with a duration leaves all but those that its callback removes, and these wait for it from now on. -/
theorem showTimed (hStaying : Staying (stays ++ taken) limit h) {duration : Nanos}
    (hDuration : options.duration = some duration) (hSoon : now + duration ≤ limit)
    (hTaken : ∀ id, id ∈ taken ↔ ∃ c ∈ options.onFinished, id ∈ c.removes) :
    Staying stays limit (h.showBubble own options now).1 where
  numbered := hStaying.numbered.carry (perform_bubbles h (.showBubble own options) now)
  order := (List.pairwise_append.mp hStaying.order).1
  held := by
    intro id hId
    obtain ⟨f, hf, hThis⟩ := hStaying.held id (List.mem_append_left _ hId)
    exact ⟨f, shows_old hf own options now, hThis⟩
  timed := by
    intro f hf due hDue
    rcases shows_showBubble hf with hOld | rfl
    · exact hStaying.timed f hOld due hDue
    · have hSome : options.duration.map (now + ·) = some due := hDue
      rw [hDuration] at hSome
      cases hSome
      exact hSoon
  waits := by
    have hTimed : (FloatingBubble.shown h.bubbleCount own options now).expiresAt = some (now + duration) := by
      show options.duration.map _ = _
      rw [hDuration, Option.map_some]
    intro f hf hUntimed
    rcases shows_showBubble hf with hOld | rfl
    · rcases hStaying.waits f hOld hUntimed with hStays | ⟨g, hg, hCaller⟩
      · refine (List.mem_append.mp hStays).imp_right fun hTakes => ?_
        refine ⟨_, shows_new h own options now, ?_, (hTaken f.id).mp hTakes⟩
        rw [hTimed]
        exact Option.some_ne_none _
      · exact .inr ⟨g, shows_old hg own options now, hCaller⟩
    · cases hTimed.symm.trans hUntimed
  removes := by
    intro g hg c hc id hRemoves
    rcases shows_showBubble hg with hOld | rfl
    · obtain ⟨hOther, hIssued, hUntimed⟩ := hStaying.removes g hOld c hc id hRemoves
      exact ⟨fun hId => hOther (List.mem_append_left _ hId), Nat.lt_succ_of_lt hIssued,
        untimed_showBubble hIssued hUntimed⟩
    · have hTakes : id ∈ taken := (hTaken id).mpr ⟨c, hc, hRemoves⟩
      have hIssued := hStaying.issued (List.mem_append_right _ hTakes)
      refine ⟨fun hId => ?_, Nat.lt_succ_of_lt hIssued, untimed_showBubble hIssued fun f hf hThis => ?_⟩
      · exact Nat.lt_irrefl id ((List.pairwise_append.mp hStaying.order).2.2 id hId id hTakes)
      · obtain ⟨f', hf', hSame, hUntimed⟩ := hStaying.held id (List.mem_append_right _ hTakes)
        rw [hStaying.numbered.unique hf hf'.1 (hThis.trans hSame.symm)]
        exact hUntimed

/-! ## What is left -/

/-- After a tick when the time of all timed bubbles is up, those that stay are all that the host shows. -/
theorem tick_left (hStaying : Staying stays limit h) (hLate : limit ≤ now) :
    (h.tick now).1.visibleIds = stays := by
  have hCarry := tick_bubbles h now
  have hAfter := hStaying.carry hCarry rfl
  have hUntimed : ∀ f', (h.tick now).1.Shows f' → f'.expiresAt = none := by
    intro f' hf'
    obtain ⟨f, hf, hStays, hSame⟩ := hf'.source hCarry rfl
    refine Option.eq_none_iff_forall_ne_some.mpr fun due hDue => ?_
    rw [hSame.expiresAt] at hDue
    have hOver : f.expiresAt.any (· ≤ now) = true := by
      rw [hDue]
      exact decide_eq_true ((hStaying.timed f hf due hDue).trans hLate)
    have hEnds : (h.moment .tick now).ends f.id f.expiresAt = true := Bool.or_eq_true_iff.mpr (.inl hOver)
    cases hStays.symm.trans hEnds
  refine (hAfter.numbered.order.sublist (List.filter_sublist.map _)).eq_of_mem_iff hStaying.order fun id => ?_
  rw [List.mem_map]
  constructor
  · rintro ⟨f, hf, rfl⟩
    obtain ⟨hHere, hRemoved⟩ := List.mem_filter.mp hf
    have hShown : (h.tick now).1.Shows f := ⟨hHere, (Bool.not_eq_true' _).mp hRemoved⟩
    -- nobody is left to wait for
    refine (hAfter.waits f hShown (hUntimed f hShown)).resolve_right ?_
    rintro ⟨g, hg, hTimed, -⟩
    exact hTimed (hUntimed g hg)
  · intro hId
    obtain ⟨f, hf, hThis, -⟩ := hAfter.held id hId
    exact ⟨f, List.mem_filter.mpr ⟨hf.1, (Bool.not_eq_true' _).mpr hf.2⟩, hThis⟩

end Staying

end GuidedTour.Host
