import GuidedTour.Proofs.Host.Lifetime
import GuidedTour.Proofs.Run.Rest

/-!
# A screen at rest

Whoever shows a host slows down as soon as the host needs no animation, so nothing on the screen may change by time
alone from then on. A frame leaves the run and every floating bubble as the next frame would leave them, and what is not
running has arrived for good. A bubble that was removed is the exception: it is not placed any more, and at some later
reading of the clock it is gone, whether it has been seen shrinking to the end or not. It makes no difference, because
every bubble that was removed is on its way into a point, and there is nothing of it to be seen once it is there.

Main results:

* `perform_forall` - what shows, removals, expiry and drawing do to each bubble, every operation does.
* `after_shrinking` - whatever a host went through, the bubbles that it removed shrink.
* `Host.draw_again` - at rest the next frame changes nothing.
* `rest_lasts` - a host that needs no animation needs none later, and shows the same picture.
-/

namespace GuidedTour

open Layout Motion Screen Completion Storage

/-! ## One bubble -/

namespace FloatingBubble

/-- Once removed, the bubble shrinks. -/
def Shrinking (f : FloatingBubble) : Prop := f.isRemoved = true → f.view.Shrinks

theorem shown_shrinking (id : BubbleId) (own : Step) (options : BubbleOptions) (now : Nanos) :
    (shown id own options now).Shrinking := by
  intro hRemoved
  cases hRemoved

theorem Shrinking.remove {f : FloatingBubble} (h : f.Shrinking) (now : Nanos) : (f.remove now).Shrinking := by
  intro hRemoved
  unfold FloatingBubble.remove at hRemoved ⊢
  split
  · next hBefore => exact h hBefore
  · exact f.view.beginCollapse_shrinks now bubbleRemoval

theorem Shrinking.expire {f : FloatingBubble} (h : f.Shrinking) (now : Nanos) : (f.expire now).1.Shrinking := by
  cases hDue : f.isDue now with
  | true =>
    rw [expire_of_due hDue]
    exact h.remove now
  | false =>
    rw [expire_of_early hDue]
    exact h

section Draw

variable {f : FloatingBubble} {area : Rect} {b picture : Buffer} {anchors : Anchors} {now later : Nanos}

theorem isGone_later (hLater : now ≤ later) (hGone : f.isGone now = true) : f.isGone later = true := by
  obtain ⟨time, hTime, hOver⟩ := (Option.any_eq_true ..).mp hGone
  have hPast : time ≤ now := of_decide_eq_true hOver
  exact (Option.any_eq_true ..).mpr ⟨time, hTime, decide_eq_true (hPast.trans hLater)⟩

theorem place_of_removed (hRemoved : f.isRemoved = true) (ctx : Context) (now : Nanos) : f.place ctx now = (f, []) :=
  if_pos hRemoved

theorem place_of_laid {ctx : Context} {answer : Except PlacementError Bubble.BubbleLayout}
    (hLaid : f.view.Laid f.step ctx answer) (hError : f.lastError = Bubble.View.failure? answer) (now : Nanos) :
    f.place ctx now = (f, []) := by
  unfold place
  split
  · rfl
  · rw [hLaid.layout]
    cases answer with
    | ok placed =>
      obtain ⟨_, _, _, _, _, _, lastError⟩ := f
      obtain rfl : lastError = none := hError
      rfl
    | error e => exact if_pos hError

/-- A bubble that a frame need not place is drawn as it is. -/
theorem draw_of_place {view : Bubble.View} (hHere : f.isGone now = false)
    (hPlace : f.place (.of area anchors) now = (f, []))
    (hView : f.view.draw f.step.content area b now = (view, picture)) :
    f.draw area b anchors now = ({ f with view := view }, picture, []) := by
  unfold draw
  rw [if_neg (by rw [hHere]; exact Bool.false_ne_true), hPlace]
  dsimp only
  rw [hView]

/-- A bubble that is shown is placed before it is drawn. -/
theorem draw_of_shown (hShown : f.isRemoved = false) (area : Rect) (b : Buffer) (anchors : Anchors) (now : Nanos) :
    (f.draw area b anchors now).1 = { f with
      view := ((f.view.layout f.step (.of area anchors) now).1.draw f.step.content area b now).1
      lastError := Bubble.View.failure? (f.view.layout f.step (.of area anchors) now).2 } ∧
    (f.draw area b anchors now).2.1 =
      ((f.view.layout f.step (.of area anchors) now).1.draw f.step.content area b now).2 := by
  unfold draw place
  rw [if_neg (by rw [isGone_of_shown hShown]; exact Bool.false_ne_true),
    if_neg (by rw [hShown]; exact Bool.false_ne_true)]
  dsimp only
  cases (f.view.layout f.step (.of area anchors) now).2 with
  | ok placed => exact ⟨rfl, rfl⟩
  | error e =>
    by_cases hAgain : f.lastError = some e
    · dsimp only
      rw [if_pos hAgain, Bubble.View.failure?, ← hAgain]
      exact ⟨rfl, rfl⟩
    · dsimp only
      rw [if_neg hAgain]
      exact ⟨rfl, rfl⟩

theorem Shrinking.draw (h : f.Shrinking) (area : Rect) (b : Buffer) (anchors : Anchors) (now : Nanos) :
    (f.draw area b anchors now).1.Shrinking := by
  cases hRemoved : f.isRemoved with
  | false =>
    rw [(draw_of_shown hRemoved area b anchors now).1]
    intro hNever
    cases hRemoved.symm.trans hNever
  | true =>
    cases hGone : f.isGone now with
    | true =>
      rw [draw_of_gone hGone]
      exact h
    | false =>
      rw [draw_of_place hGone (place_of_removed hRemoved _ now) rfl]
      exact fun _ => (h hRemoved).drawn f.step.content area b now

/-- A bubble at rest is drawn once more as it was drawn before. -/
theorem draw_again (hShrinking : f.Shrinking) (hLater : now ≤ later)
    (hRest : (f.draw area b anchors now).1.view.AtRest now) (hRest' : (f.draw area b anchors now).1.view.AtRest later) :
    (f.draw area b anchors now).1.draw area b anchors later =
      ((f.draw area b anchors now).1, (f.draw area b anchors now).2.1, []) := by
  -- a view at rest is drawn as the one that it was drawn from
  have hSame : ∀ v : Bubble.View, (v.draw f.step.content area b now).1.AtRest now →
      (v.draw f.step.content area b now).1.AtRest later →
        (v.draw f.step.content area b now).1.draw f.step.content area b later = v.draw f.step.content area b now :=
    fun v h h' => (h.draw_eq h' f.step.content area b).trans (v.draw_drawn ..)
  cases hRemoved : f.isRemoved with
  | false =>
    obtain ⟨hDrawn, hPicture⟩ := draw_of_shown hRemoved area b anchors now
    rw [hPicture]
    rw [hDrawn] at hRest hRest' ⊢
    have hLaid := (f.view.layout_laid f.step (.of area anchors) now).drawn f.step.content area b now
    exact draw_of_place (isGone_of_shown hRemoved later) (place_of_laid hLaid rfl later) (hSame _ hRest hRest')
  | true =>
    cases hGone : f.isGone now with
    | true => rw [draw_of_gone hGone, draw_of_gone (isGone_later hLater hGone)]
    | false =>
      have hShrinks := (hShrinking hRemoved).drawn f.step.content area b now
      have hSameView := hSame f.view
      rcases hView : f.view.draw f.step.content area b now with ⟨view, picture⟩
      rw [hView] at hShrinks hSameView
      rw [draw_of_place hGone (place_of_removed hRemoved _ now) hView] at hRest hRest' ⊢
      have hAgain : view.draw f.step.content area b later = (view, picture) := hSameView hRest hRest'
      -- there is nothing to be seen of it, so it does not matter whether it is gone by then
      have hNothing : picture = b := by
        rw [← hShrinks.draw_eq hRest' f.step.content area b, hAgain]
      cases hThen : f.isGone later with
      | true =>
        refine (draw_of_gone (f := { f with view := view }) hThen area b anchors).trans ?_
        rw [hNothing]
      | false => exact draw_of_place hThen (place_of_removed (f := { f with view := view }) hRemoved _ later) hAgain

end Draw

end FloatingBubble

namespace Host

/-! ## What every operation keeps of the bubbles -/

/-- What holds of a bubble that is shown, and stays when the bubble is removed, when its time is up and when it is
drawn, holds of all bubbles of a host after every operation. -/
theorem perform_forall {P : FloatingBubble → Prop} (hShown : ∀ id own options now, P (.shown id own options now))
    (hRemove : ∀ f now, P f → P (f.remove now)) (hExpire : ∀ f now, P f → P (f.expire now).1)
    (hDraw : ∀ f area b anchors now, P f → P (f.draw area b anchors now).1) {h : Host} (hAll : ∀ f ∈ h.bubbles, P f)
    (op : Op) (now : Nanos) : ∀ f ∈ (h.perform op now).1.bubbles, P f := by
  have hKept : ∀ keep : FloatingBubble → Bool, ∀ f ∈ h.bubbles.filter keep, P f :=
    fun keep f hf => hAll f (List.mem_filter.mp hf).1
  cases op with
  | start request =>
    rw [(bubbles_start h request now).1]
    exact hKept _
  | handle e =>
    show ∀ f ∈ (h.handle e now).1.bubbles, P f
    rw [bubbles_handle]
    exact hKept _
  | tick =>
    show ∀ f ∈ (h.tick now).1.bubbles, P f
    rw [bubbles_tick]
    intro f' hf'
    obtain ⟨f, hf, rfl⟩ := List.mem_map.mp hf'
    have hExpired := hExpire f now (hKept _ f hf)
    split
    · exact hRemove _ now hExpired
    · exact hExpired
  | draw area b =>
    show ∀ f ∈ (h.draw area b now).1.bubbles, P f
    rw [bubbles_draw]
    -- each bubble is drawn over what the ones before have left
    have hDrawn : ∀ (bubbles : List FloatingBubble) (b : Buffer), (∀ f ∈ bubbles, P f) →
        ∀ f ∈ (drawBubbles area h.anchors now bubbles b).1, P f := by
      intro bubbles
      induction bubbles with
      | nil => exact fun _ _ f hf => absurd hf List.not_mem_nil
      | cons first rest ih =>
        intro b hThese
        rw [List.forall_mem_cons] at hThese
        exact List.forall_mem_cons.mpr ⟨hDraw _ _ _ _ _ hThese.1, ih _ hThese.2⟩
    exact hDrawn h.bubbles b hAll
  | disappear => exact fun f hf => absurd hf List.not_mem_nil
  | step id =>
    rw [(bubbles_step h id now).1]
    exact hAll
  | dismiss id =>
    rw [(bubbles_dismiss h id now).1]
    exact hAll
  | showBubble own options =>
    intro f hf
    rcases List.mem_append.mp hf with hOld | hNew
    · exact hAll f hOld
    · rw [List.mem_singleton.mp hNew]
      exact hShown ..
  | removeBubble id =>
    intro f' hf'
    obtain ⟨f, hf, rfl⟩ := List.mem_map.mp hf'
    split
    · exact hRemove f now (hAll f hf)
    · exact hAll f hf
  | arrange anchors => exact hAll
  | revise index view => exact hAll
  | alter store disk => exact hAll

/-- Whatever a host went through, the bubbles that were removed shrink. -/
theorem after_shrinking {h : Host} (hAll : ∀ f ∈ h.bubbles, f.Shrinking) (moments : List (Op × Nanos)) :
    ∀ f ∈ (h.after moments).bubbles, f.Shrinking := by
  induction moments generalizing h with
  | nil => exact hAll
  | cons m rest ih =>
    refine ih (perform_forall FloatingBubble.shown_shrinking ?_ ?_ ?_ hAll m.1 m.2)
    · exact fun _ now h => h.remove now
    · exact fun _ now h => h.expire now
    · exact fun _ area b anchors now h => h.draw area b anchors now

/-! ## The next frame -/

section Frame

variable {h : Host} {area : Rect} {b : Buffer} {anchors : Anchors} {now later : Nanos}

theorem drawBubbles_again {bubbles : List FloatingBubble} (hShrinking : ∀ f ∈ bubbles, f.Shrinking)
    (hLater : now ≤ later) (b : Buffer)
    (hRest : ∀ f ∈ (drawBubbles area anchors now bubbles b).1, f.view.AtRest now ∧ f.view.AtRest later) :
    drawBubbles area anchors later (drawBubbles area anchors now bubbles b).1 b =
      ((drawBubbles area anchors now bubbles b).1, (drawBubbles area anchors now bubbles b).2.1, []) := by
  -- each bubble is drawn over what the ones before have left
  induction bubbles generalizing b with
  | nil => rfl
  | cons f rest ih =>
    rw [List.forall_mem_cons] at hShrinking
    obtain ⟨⟨hNow, hThen⟩, hOthers⟩ := List.forall_mem_cons.mp hRest
    have hFirst := FloatingBubble.draw_again hShrinking.1 hLater hNow hThen
    have hRest := ih hShrinking.2 (f.draw area b anchors now).2.1 hOthers
    simp only [drawBubbles]
    rw [hFirst]
    dsimp only
    rw [hRest]
    rfl

variable {bubbles : List FloatingBubble} {under picture : Buffer} {warnings : List Warning}

theorem draw_of_inactive (hActive : h.active = none)
    (hBelow : drawBubbles area h.anchors now h.bubbles b = (bubbles, picture, warnings)) :
    h.draw area b now = ({ h with bubbles := bubbles }, picture, warnings.map .warning) := by
  unfold draw
  dsimp only
  rw [hBelow, hActive]

/-- The bubbles are drawn first, and the run above them. -/
theorem draw_of_active {id : RunId} {run run' : Run} {effects : List Effect} (hActive : h.active = some (id, run))
    (hBelow : drawBubbles area h.anchors now h.bubbles b = (bubbles, under, warnings))
    (hRun : run.draw area under h.anchors now = (run', picture, effects)) :
    h.draw area b now = (({ h with bubbles := bubbles }.settle id run' effects).1, picture,
      warnings.map .warning ++ ({ h with bubbles := bubbles }.settle id run' effects).2) := by
  unfold draw
  dsimp only
  rw [hBelow, hActive]
  dsimp only
  rw [hRun]

/-- A host at rest is drawn once more as it was drawn before. -/
theorem draw_again (hShrinking : ∀ f ∈ h.bubbles, f.Shrinking) (hLater : now ≤ later)
    (hBubbles : ∀ f ∈ (h.draw area b now).1.bubbles, f.view.AtRest now ∧ f.view.AtRest later)
    (hRun : ∀ held ∈ (h.draw area b now).1.active, ∀ v ∈ held.2.views, Run.AtRest v now ∧ Run.AtRest v later) :
    (h.draw area b now).1.draw area b later = ((h.draw area b now).1, (h.draw area b now).2.1, []) := by
  -- first the bubbles, and then the run over the picture that they leave
  rw [bubbles_draw] at hBubbles
  have hAgain := drawBubbles_again hShrinking hLater b hBubbles
  rcases hBelow : drawBubbles area h.anchors now h.bubbles b with ⟨bubbles, under, warnings⟩
  rw [hBelow] at hAgain
  cases hActive : h.active with
  | none =>
    rw [draw_of_inactive hActive hBelow]
    exact draw_of_inactive (h := { h with bubbles := bubbles }) hActive hAgain
  | some held =>
    obtain ⟨id, run⟩ := held
    rcases hDrawn : run.draw area under h.anchors now with ⟨run', picture, effects⟩
    obtain ⟨store, disk, hOutside⟩ := h.applyAll_outside effects
    have hSettled : ({ h with bubbles := bubbles }.settle id run' effects).1 =
        { h with store := store, disk := disk, active := some (id, run'), bubbles := bubbles } := by
      rw [settle_eq, hOutside]
    rw [draw_of_active hActive hBelow hDrawn, hSettled] at hRun ⊢
    -- the host after the frame holds the run and the bubbles that were drawn, and the anchors as they were
    have hRunAgain : run'.draw area under h.anchors later = (run', picture, []) := by
      have hRest := hRun (id, run') rfl
      have hAgain := @Run.draw_again run now later area under h.anchors
      rw [hDrawn] at hAgain
      exact hAgain hRest
    exact draw_of_active (h := { h with store := store, disk := disk, active := some (id, run'), bubbles := bubbles })
      rfl hAgain hRunAgain

end Frame

/-! ## At rest -/

/-- The courses of everything that a host shows. -/
def courses (h : Host) : List Course :=
  h.active.toList.flatMap (·.2.courses) ++ h.bubbles.flatMap (·.view.courses)

theorem rest_later {h : Host} {now later : Nanos} (hOrder : ∀ c ∈ h.courses, c.KeepsOrder now later)
    (hLater : now ≤ later) (hStill : h.isAnimating now = false) :
    (∀ held ∈ h.active, ∀ v ∈ held.2.views, Run.AtRest v now ∧ Run.AtRest v later) ∧
      (∀ f ∈ h.bubbles, f.view.AtRest now ∧ f.view.AtRest later) ∧ h.isAnimating later = false := by
  simp only [isAnimating, Bool.or_eq_false_iff, Option.any_eq_false, List.any_eq_false, Bool.not_eq_true] at hStill ⊢
  obtain ⟨hRun, hBubbles⟩ := hStill
  have hRunRest := fun held (hHeld : h.active = some held) =>
    Run.rest_later (fun c hc => hOrder c (List.mem_append_left _
      (List.mem_flatMap.mpr ⟨held, Option.mem_toList.mpr hHeld, hc⟩))) hLater (hRun held hHeld)
  have hBubbleRest := fun f (hf : f ∈ h.bubbles) =>
    Bubble.View.rest_later (fun c hc => hOrder c (List.mem_append_right _ (List.mem_flatMap.mpr ⟨f, hf, hc⟩))) hLater
      (hBubbles f hf)
  exact ⟨fun held hHeld => (hRunRest held hHeld).1, hBubbleRest,
    fun held hHeld => (hRunRest held hHeld).2, fun f hf => (hBubbleRest f hf).2.isAnimating⟩

/--
**A screen at rest stays at rest.** Take any host, with a walkthrough, with floating bubbles, some of them shrinking,
whatever it went through and at whatever readings of the clock. If it needs no animation just after a frame, it needs
none at any later reading of the clock, and a frame over the same area, the same buffer and the same anchors then shows
the same picture. More than that, this frame changes nothing of the host and has nothing to say, so that any number of
further frames show the same. The courses are those of the fading veil, its hole, the bubbles and their arrows; of
these, single precision is to keep the order of the spans of time that have passed.
-/
theorem rest_lasts (store : Store) (disk : Disk) (anchors : Anchors) (provider : Option Provider)
    (before : List (Op × Nanos)) (area : Rect) (b : Buffer) (now later : Nanos) (hLater : now ≤ later) :
    let h := Host.after { store := store, disk := disk, anchors := anchors, provider := provider } before
    let drawn := (h.draw area b now).1
    (∀ c ∈ drawn.courses, c.KeepsOrder now later) → drawn.isAnimating now = false →
      drawn.isAnimating later = false ∧ drawn.draw area b later = (drawn, (h.draw area b now).2.1, []) := by
  intro h drawn hOrder hStill
  have hShrinking : ∀ f ∈ h.bubbles, f.Shrinking := after_shrinking (fun f hf => absurd hf List.not_mem_nil) before
  obtain ⟨hRun, hBubbles, hQuiet⟩ := rest_later hOrder hLater hStill
  exact ⟨hQuiet, draw_again hShrinking hLater hBubbles hRun⟩

/-- A walkthrough with its veil over two floating bubbles, one of which was removed on the way. -/
theorem rest_lasts_tour :
    let own : Step := .centered (.rich []) .zero
    let tour : Provider := ⟨"tour", [.below (.rect ⟨10, 1, 4, 2⟩) (.rich [])]⟩
    let area : Rect := ⟨0, 0, 20, 8⟩
    let b := Buffer.blank area
    let h := Host.after { provider := some tour }
      [(.showBubble own {}, 0), (.showBubble own {}, 0), (.draw area b, 0), (.start {}, millis 100),
        (.removeBubble 0, millis 100), (.draw area b, millis 200)]
    let drawn := (h.draw area b (millis 900)).1
    drawn.isAnimating (millis 900) = false ∧ drawn.isAnimating (millis 5000) = false ∧
      drawn.draw area b (millis 5000) = (drawn, (h.draw area b (millis 900)).2.1, []) := by
  intro own tour area b h drawn
  have hOrder : ∀ c ∈ drawn.courses, c.KeepsOrder (millis 900) (millis 5000) := by decide +kernel
  have hStill : drawn.isAnimating (millis 900) = false := by decide +kernel
  exact ⟨hStill, rest_lasts (.memory .empty) .fresh .empty (some tour) _ area b (millis 900) (millis 5000) (by decide)
    hOrder hStill⟩

end Host

end GuidedTour
