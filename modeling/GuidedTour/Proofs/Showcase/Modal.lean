import GuidedTour.Proofs.Run.Reply
import GuidedTour.Proofs.Showcase.Operation

/-!
# The showcase behind a veil

Behind a veil the walkthrough takes every key that goes down and whatever the mouse does, and what is left means nothing
to the screen. So no event reaches the screen as long as a walkthrough with a veil is on it: the slider, the buttons and
the program stay as they are, nothing is started or forgotten, and the show of bubbles plays on as if nobody were there.

Main results:

* `handle_eq_hear` - an event comes to what the host makes of it.
* `perform_unreached`, `perform_sameShow` - what one moment leaves of the screen and of the show.
* `modal_isolation` - what any number of them leave.
-/

namespace GuidedTour.Showcase

open GuidedTour.Screen Completion Storage

namespace App

/-! ## Veiled showcases -/

/-- A run that dims the screen as long as it is there. -/
structure Dims (r : Run) : Prop where
  sound : r.Sound
  mode  : r.settings.presentationMode ≠ .none

theorem Dims.perform {r : Run} (h : Dims r) (op : Run.Op) (now : Nanos) : Dims (r.perform op now).1 := by
  have hTurn := Run.perform_turn op now h.sound
  refine ⟨hTurn.sound h.sound, ?_⟩
  rw [hTurn.sameTour.settings]
  exact h.mode

theorem Dims.hasVeil {r : Run} (h : Dims r) (hShown : r.isActive = true) : r.hasVeil = true := by
  have hMode := h.mode
  rw [h.sound.veil, hShown, Bool.true_and]
  cases hThis : r.settings.presentationMode with
  | none => exact absurd hThis hMode
  | _ => rfl

/-- If the host holds a run, it is one that dims the screen. -/
def Veiled (a : App) : Prop := ∀ id run, a.host.active = some (id, run) → Dims run

theorem veiled_perform {h : Host} (hVeiled : ∀ id run, h.active = some (id, run) → Dims run) {op : Host.Op}
    (hStarts : ∀ request, op ≠ .start request) (now : Nanos) :
    ∀ id run, (h.perform op now).1.active = some (id, run) → Dims run := by
  refine Host.perform_holds hVeiled (fun run runOp hRun => hRun.perform runOp now) fun id run hSome => ?_
  rw [Host.launched_other hStarts] at hSome
  cases hSome

/-- An event comes to what the host makes of it: the screen is not asked. -/
theorem handle_eq_hear {a : App} (hVeiled : a.Veiled) (hShown : a.host.isActive = true) (e : Event) (now : Nanos) :
    a.handle e now = hear { a with host := (a.host.handle e now).1 } (a.host.handle e now).2.2 := by
  obtain ⟨id, run, hActive, hRun⟩ : ∃ id run, a.host.active = some (id, run) ∧ run.isActive = true := by
    rw [Host.isActive] at hShown
    cases hActive : a.host.active with
    | none => rw [hActive] at hShown; cases hShown
    | some held => rw [hActive] at hShown; exact ⟨held.1, held.2, rfl, hShown⟩
  have hTaken := Run.handle_taken_of_veil hRun ((hVeiled id run hActive).hasVeil hRun) e now
  have hHost : (a.host.handle e now).2.1 = (run.handle e now).2.1 := by rw [Host.handle, hActive]
  unfold handle
  dsimp only
  rw [hHost, hTaken]
  -- what is left over behind a veil are keys that do not go down, and events without a meaning
  cases e with
  | key k =>
    by_cases hPress : k.kind = .press
    · rw [if_pos (decide_eq_true hPress)]
    · rw [if_neg (by simpa using hPress)]
      simp only [handleOnScreen, hPress, if_false, List.append_nil]
  | mouse m => rfl
  | other => simp [handleOnScreen]

/-! ## One moment -/

/-- Whether an operation offers an event. -/
def Op.isEvent : Op → Bool
  | .handle _ => true
  | _ => false

/-- Whether an operation is an event while a walkthrough is on the screen, a tick, a frame, or a change of a view inside
a bubble. -/
def Op.isModal (op : Op) (a : App) : Bool :=
  match op with
  | .handle _ => a.host.isActive
  | .tick | .draw _ _ | .onHost (.revise _ _) => true
  | _ => false

/-- The screen was not reached: it is as it was, the program goes on, and no flag was cleared. -/
structure Unreached (a a' : App) : Prop where
  level   : a'.screen.level = a.screen.level
  pressed : a'.screen.pressed = a.screen.pressed
  quit    : a'.quit = a.quit
  flags   : ∀ key, a.host.store.isCompleted key = .ok true → a'.host.store.isCompleted key = .ok true

theorem Unreached.refl (a : App) : Unreached a a := ⟨rfl, rfl, rfl, fun _ hSet => hSet⟩

theorem Unreached.trans {a b c : App} (h : Unreached a b) (h' : Unreached b c) : Unreached a c :=
  ⟨h'.level.trans h.level, h'.pressed.trans h.pressed, h'.quit.trans h.quit,
    fun key hSet => h'.flags key (h.flags key hSet)⟩

/-- Whether an operation of the host is one that the showcase passes on at a moment of its own. -/
def passesOn : Host.Op → Bool
  | .handle _ | .tick | .draw _ _ | .revise _ _ => true
  | _ => false

/-- An operation of the host, on whatever screen, after which the showcase hears what the host has to say. -/
theorem unreached_hear {a b : App} {h : Host} {op : Host.Op} {now : Nanos} (hVeiled : a.Veiled)
    (hActive : h.active = a.host.active) (hStore : h.store = a.host.store) (hOp : passesOn op = true)
    (hLevel : b.screen.level = a.screen.level) (hPressed : b.screen.pressed = a.screen.pressed)
    (hQuit : b.quit = a.quit) (hHost : b.host = (h.perform op now).1) :
    Unreached a (hear b (h.perform op now).2).1 ∧ Veiled (hear b (h.perform op now).2).1 := by
  -- none of these operations starts a run or lets another program write the flags
  have hStarts : ∀ request, op ≠ .start request := by
    rintro request rfl
    cases hOp
  have hSpares : ∀ key, op.sparesFlag key := by
    intro key
    cases op with
    | alter store disk => cases hOp
    | _ => trivial
  have hSame := hear_host b (h.perform op now).2
  have hHeld : ∀ id run, h.active = some (id, run) → Dims run := by
    rw [hActive]
    exact hVeiled
  obtain ⟨status, hHeard⟩ := hear_frame b (h.perform op now).2
  refine ⟨⟨?_, ?_, ?_, fun key hSet => ?_⟩, fun id run hAfter => ?_⟩
  · rw [hHeard]
    exact hLevel
  · rw [hHeard]
    exact hPressed
  · rw [hHeard]
    exact hQuit
  · rw [hSame, hHost]
    exact Host.perform_remembers (hStore ▸ hSet) (hSpares key)
  · rw [hSame, hHost] at hAfter
    exact veiled_perform hHeld hStarts now id run hAfter

theorem perform_unreached {a : App} (hVeiled : a.Veiled) {op : Op} (hModal : op.isModal a = true) (now : Nanos) :
    Unreached a (a.perform op now) ∧ (a.perform op now).Veiled := by
  cases op with
  | handle e =>
    show Unreached a (a.handle e now).1 ∧ Veiled (a.handle e now).1
    rw [handle_eq_hear hVeiled hModal]
    exact unreached_hear hVeiled rfl rfl (rfl : passesOn (.handle e) = true) rfl rfl rfl rfl
  | tick =>
    obtain ⟨bubbles, count, hPlayed⟩ := a.played_frame now
    show Unreached a (a.tick now).1 ∧ Veiled (a.tick now).1
    rw [tick_eq]
    refine unreached_hear hVeiled ?_ ?_ (rfl : passesOn .tick = true) rfl rfl rfl rfl
    · rw [hPlayed]
    · rw [hPlayed]
  | draw area b =>
    obtain ⟨slider, buttons, picture, anchors, hDraw⟩ := a.draw_eq area b now
    show Unreached a (a.draw area b now).1 ∧ Veiled (a.draw area b now).1
    rw [hDraw]
    exact unreached_hear hVeiled rfl rfl (rfl : passesOn (.draw area picture) = true) rfl rfl rfl rfl
  | onHost op =>
    cases op with
    | revise index view =>
      exact unreached_hear hVeiled rfl rfl (rfl : passesOn (.revise index view) = true) rfl rfl rfl rfl
    | _ => cases hModal
  | _ => cases hModal

/-! ## The show that plays -/

/-- Two showcases play the same show, and their next bubbles will have the same number. -/
structure SameShow (a c : App) : Prop where
  playing : a.playing = c.playing
  count   : a.host.bubbleCount = c.host.bubbleCount

theorem SameShow.trans {a b c : App} (h : SameShow a b) (h' : SameShow b c) : SameShow a c :=
  ⟨h.playing.trans h'.playing, h.count.trans h'.count⟩

theorem SameShow.symm {a c : App} (h : SameShow a c) : SameShow c a := ⟨h.playing.symm, h.count.symm⟩

/-- An operation of the host, and what it says, are nothing to a show. -/
theorem sameShow_hear {b c : App} {h : Host} {op : Host.Op} {now : Nanos} (hOp : passesOn op = true)
    (hPlaying : b.playing = c.playing) (hHost : b.host = (h.perform op now).1)
    (hCount : h.bubbleCount = c.host.bubbleCount) : SameShow (hear b (h.perform op now).2).1 c := by
  have hShown : op.shown h now = [] := by
    cases op with
    | showBubble own options => cases hOp
    | _ => rfl
  have hSame := (Host.perform_bubbles h op now).count
  rw [hShown] at hSame
  obtain ⟨status, hHeard⟩ := hear_frame b (h.perform op now).2
  refine ⟨?_, ?_⟩
  · rw [hHeard]
    exact hPlaying
  · rw [hear_host, hHost, hSame]
    exact hCount

theorem handle_sameShow {a : App} (hVeiled : a.Veiled) (hShown : a.host.isActive = true) (e : Event) (now : Nanos) :
    SameShow (a.perform (.handle e) now) a := by
  show SameShow (a.handle e now).1 a
  rw [handle_eq_hear hVeiled hShown]
  exact sameShow_hear (rfl : passesOn (.handle e) = true) rfl rfl rfl

theorem draw_sameShow (a : App) (area : Rect) (b : Buffer) (now : Nanos) :
    SameShow (a.perform (.draw area b) now) a := by
  obtain ⟨slider, buttons, picture, anchors, hDraw⟩ := a.draw_eq area b now
  show SameShow (a.draw area b now).1 a
  rw [hDraw]
  exact sameShow_hear (rfl : passesOn (.draw area picture) = true) rfl rfl rfl

theorem revise_sameShow (a : App) (index : Nat) (view : CustomContent) (now : Nanos) :
    SameShow (a.perform (.onHost (.revise index view)) now) a :=
  sameShow_hear (rfl : passesOn (.revise index view) = true) rfl rfl rfl

/-- At a tick the show has its turn, and what the host does then is nothing to it. -/
theorem tick_sameShow (a : App) (now : Nanos) :
    SameShow (a.perform .tick now) { a with playing := (a.played now).1, host := (a.played now).2 } := by
  show SameShow (a.tick now).1 _
  rw [tick_eq]
  exact sameShow_hear (rfl : passesOn .tick = true) rfl rfl rfl

/-- Without an event two showcases with the same show go on alike. -/
theorem perform_sameShow {a c : App} (h : SameShow a c) {op : Op} (hModal : op.isModal a = true)
    (hEvent : op.isEvent = false) (now : Nanos) : SameShow (a.perform op now) (c.perform op now) := by
  cases op with
  | handle e => cases hEvent
  | tick =>
    have hPlayed : (a.played now).1 = (c.played now).1 ∧
        (a.played now).2.bubbleCount = (c.played now).2.bubbleCount := by
      unfold played
      rw [h.playing]
      split
      · exact ⟨rfl, h.count⟩
      · next s _ =>
        obtain ⟨hShow, hCount⟩ := s.tick_alike h.count now
        rw [hShow]
        exact ⟨rfl, hCount⟩
    exact (a.tick_sameShow now).trans (SameShow.trans ⟨hPlayed.1, hPlayed.2⟩ (c.tick_sameShow now).symm)
  | draw area b => exact (a.draw_sameShow area b now).trans (h.trans (c.draw_sameShow area b now).symm)
  | onHost op =>
    cases op with
    | revise index view =>
      exact (a.revise_sameShow index view now).trans (h.trans (c.revise_sameShow index view now).symm)
    | _ => cases hModal
  | _ => cases hModal

/-- No show begins. -/
theorem perform_started {a : App} (hVeiled : a.Veiled) {op : Op} (hModal : op.isModal a = true) {now : Nanos}
    {s : BubbleShow} (hAfter : (a.perform op now).playing = some s) :
    ∃ earlier, a.playing = some earlier ∧ earlier.started = s.started := by
  have hSame : ∀ {b : App}, SameShow (a.perform op now) b → b.playing = some s := fun h => h.playing.symm.trans hAfter
  cases op with
  | handle e => exact ⟨s, hSame (handle_sameShow hVeiled hModal e now), rfl⟩
  | tick => exact played_started (hSame (a.tick_sameShow now))
  | draw area b => exact ⟨s, hSame (a.draw_sameShow area b now), rfl⟩
  | onHost op =>
    cases op with
    | revise index view => exact ⟨s, hSame (a.revise_sameShow index view now), rfl⟩
    | _ => cases hModal
  | _ => cases hModal

/-! ## Any number of moments -/

/-- Whether only events, ticks, frames and changes of views inside bubbles happen, with a walkthrough on the screen at
each event. -/
def attended (a : App) : List (Op × Nanos) → Bool
  | [] => true
  | m :: rest => m.1.isModal a && attended (a.perform m.1 m.2) rest

section Attended

variable {a : App} {moments : List (Op × Nanos)}

/-- While the veil is there, no moment reaches the screen, and the run still dims it after each. -/
theorem after_unreached (hVeiled : a.Veiled) (hAttended : a.attended moments = true) :
    Unreached a (a.after moments) ∧ (a.after moments).Veiled := by
  induction moments generalizing a with
  | nil => exact ⟨.refl a, hVeiled⟩
  | cons m rest ih =>
    rw [attended, Bool.and_eq_true] at hAttended
    obtain ⟨hFirst, hNext⟩ := perform_unreached hVeiled hAttended.1 m.2
    obtain ⟨hLater, hLast⟩ := ih hNext hAttended.2
    exact ⟨hFirst.trans hLater, hLast⟩

/-- The show is the same as if the events had not come. -/
theorem after_sameShow {c : App} (h : SameShow a c) (hVeiled : a.Veiled) (hAttended : a.attended moments = true) :
    SameShow (a.after moments) (c.after (moments.filter fun m => !m.1.isEvent)) := by
  -- on the moments: at an event the other showcase waits, at any other moment both go on
  induction moments generalizing a c with
  | nil => exact h
  | cons m rest ih =>
    obtain ⟨op, now⟩ := m
    rw [attended, Bool.and_eq_true] at hAttended
    have hNext := (perform_unreached hVeiled hAttended.1 now).2
    cases hEvent : op.isEvent with
    | true =>
      obtain ⟨e, rfl⟩ : ∃ e, op = .handle e := by
        cases op with
        | handle e => exact ⟨e, rfl⟩
        | _ => cases hEvent
      rw [List.filter_cons_of_neg (by simp [hEvent])]
      exact ih ((handle_sameShow hVeiled hAttended.1 e now).trans h) hNext hAttended.2
    | false =>
      rw [List.filter_cons_of_pos (by simp [hEvent])]
      exact ih (perform_sameShow h hAttended.1 hEvent now) hNext hAttended.2

theorem after_started {s : BubbleShow} (hVeiled : a.Veiled) (hAttended : a.attended moments = true)
    (hAfter : (a.after moments).playing = some s) :
    ∃ earlier, a.playing = some earlier ∧ earlier.started = s.started := by
  induction moments generalizing a with
  | nil => exact ⟨s, hAfter, rfl⟩
  | cons m rest ih =>
    rw [attended, Bool.and_eq_true] at hAttended
    obtain ⟨between, hBetween, hStarted⟩ := ih (perform_unreached hVeiled hAttended.1 m.2).2 hAttended.2 hAfter
    obtain ⟨earlier, hEarlier, hSame⟩ := perform_started hVeiled hAttended.1 hBetween
    exact ⟨earlier, hEarlier, hSame.trans hStarted⟩

end Attended

/-- Whether a walkthrough that dims the screen is on it. -/
def isDimmed (a : App) : Bool :=
  a.host.active.any fun held => held.2.isActive && held.2.settings.presentationMode.dimming.isSome

theorem veiled_of_dimmed {a : App} (hSound : a.Sound) (hDimmed : a.isDimmed = true) : a.Veiled := by
  intro id run hActive
  rw [isDimmed, hActive, Option.any_some, Bool.and_eq_true] at hDimmed
  refine ⟨hSound id run hActive, fun hNone => ?_⟩
  rw [hNone] at hDimmed
  cases hDimmed.2

/-- What some moments leave of a showcase behind a veil. -/
structure Isolated (a : App) (moments : List (Op × Nanos)) : Prop where
  /-- The slider, the buttons and the program are as they were, and no flag was cleared. -/
  unreached : Unreached a (a.after moments)
  /-- The show that plays is the one that would play without the events. -/
  playing   : (a.after moments).playing = (a.after (moments.filter fun m => !m.1.isEvent)).playing
  /-- It began before. -/
  started   : ∀ s, (a.after moments).playing = some s → ∃ earlier, a.playing = some earlier ∧ earlier.started = s.started
  /-- The next event, too, comes to what the host makes of it, also if it ends the walkthrough. -/
  event     : ∀ e now, (a.after moments).host.isActive = true →
    (a.after moments).handle e now = hear { a.after moments with host := ((a.after moments).host.handle e now).1 }
      ((a.after moments).host.handle e now).2.2

/-- Two showcases have the same slider and the same buttons, and the program goes on in both or in none. -/
structure Alike (a c : App) : Prop where
  level   : a.screen.level = c.screen.level
  pressed : a.screen.pressed = c.screen.pressed
  quit    : a.quit = c.quit

/--
**Behind a veil.** Whatever has happened to a showcase before: once a walkthrough that dims the screen is on it, no
events that come while it is there reach the screen, up to the one that ends it. The slider, the buttons and the program
stay as they are, no show begins and no flag is cleared; so they are the same afterwards whatever events have come, and
the show that plays is the same if what happened besides is.
-/
theorem modal_isolation (tour : Provider) (store : Store) (disk : Disk) (options : AppOptions) (since : Nanos)
    (before : List (Op × Nanos)) :
    let a := (launch tour store disk options since).1.after before
    a.isDimmed = true → ∀ moments, a.attended moments = true →
      Isolated a moments ∧ ∀ others, a.attended others = true → Alike (a.after moments) (a.after others) ∧
        ((moments.filter fun m => !m.1.isEvent) = (others.filter fun m => !m.1.isEvent) →
          (a.after moments).playing = (a.after others).playing) := by
  intro a hDimmed moments hAttended
  have hLaunched := launch_sound tour store disk options since
  have hSound : a.Sound := after_induction (P := Sound) (fun _ op now h => perform_sound h op now) hLaunched before
  have hVeiled := veiled_of_dimmed hSound hDimmed
  obtain ⟨hUnreached, hStill⟩ := after_unreached hVeiled hAttended
  have hShow := fun {others} (hOthers : a.attended others = true) => after_sameShow ⟨rfl, rfl⟩ hVeiled hOthers
  refine ⟨⟨hUnreached, (hShow hAttended).playing, fun s => after_started hVeiled hAttended,
    fun e now hShown => handle_eq_hear hStill hShown e now⟩, fun others hOthers => ⟨?_, fun hRest => ?_⟩⟩
  · have hOther := (after_unreached hVeiled hOthers).1
    exact ⟨hUnreached.level.trans hOther.level.symm, hUnreached.pressed.trans hOther.pressed.symm,
      hUnreached.quit.trans hOther.quit.symm⟩
  · rw [(hShow hAttended).playing, (hShow hOthers).playing, hRest]

/-- Keys that would move the slider, press a button, reset the flag and quit, a click and a drag, while a show of bubbles
plays. The last key ends the walkthrough. -/
theorem modal_isolation_escape :
    let tour : Provider := ⟨"tour", [.centered default .zero, .centered default .zero]⟩
    let a := (launch tour (.memory .empty) .fresh { bubbles := true } 0).1.after [(.tick, 1)]
    let moments : List (Op × Nanos) :=
      [(.handle (.key ⟨.left, .press, false⟩), 2), (.handle (.key ⟨.char '1', .press, false⟩), 3),
        (.handle (.key ⟨.char 'r', .press, false⟩), 4), (.handle (.key ⟨.char 'q', .hold, false⟩), 5),
        (.handle (.mouse ⟨.down .left, ⟨0, 0⟩, false⟩), 6), (.handle (.mouse ⟨.drag .left, ⟨3, 4⟩, false⟩), 7),
        (.tick, 8), (.handle (.key ⟨.esc, .press, false⟩), 9), (.tick, 10)]
    (a.isDimmed = true ∧ a.attended moments = true ∧ (a.after moments).isDimmed = false) ∧ Isolated a moments := by
  intro tour a moments
  have hDimmed : a.isDimmed = true := by decide
  have hAttended : a.attended moments = true := by decide
  have hEnded : (a.after moments).isDimmed = false := by decide
  exact ⟨⟨hDimmed, hAttended, hEnded⟩,
    (modal_isolation tour (.memory .empty) .fresh { bubbles := true } 0 [(.tick, 1)] hDimmed moments hAttended).1⟩

end App

end GuidedTour.Showcase
