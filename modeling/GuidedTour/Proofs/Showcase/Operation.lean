import GuidedTour.Proofs.Host.Bubbles
import GuidedTour.Proofs.Host.Custody
import GuidedTour.Showcase.App

/-!
# What one operation makes of the showcase

The showcase passes everything on to its host, and what the host does not take to its screen. What the host says is
heard, and changes nothing but the status. So each operation is one of the host, framed by what happens on the screen
and to the show of bubbles that may be playing.

Main results:

* `hear_frame`, `BubbleShow.tick_frame` - what hearing and playing leave as it is.
* `perform_sound` - the showcase only ever holds sound runs.
-/

namespace GuidedTour.Showcase

open GuidedTour.Screen Completion Storage

/-! ## The show of bubbles -/

namespace BubbleShow

/-- A show that plays only shows bubbles. -/
theorem showNext_frame (s : BubbleShow) (h : Host) (now : Nanos) :
    (s.showNext h now).1.started = s.started ∧
      ∃ bubbles count, (s.showNext h now).2 = { h with bubbles := bubbles, bubbleCount := count } := by
  unfold showNext
  split
  · exact ⟨rfl, h.bubbles, h.bubbleCount, rfl⟩
  · exact ⟨rfl, _, _, rfl⟩

theorem showDue_frame (h : Host) (now : Nanos) (s : BubbleShow) (times : List Nanos) :
    (showDue h now s times).1.started = s.started ∧
      ∃ bubbles count, (showDue h now s times).2 = { h with bubbles := bubbles, bubbleCount := count } := by
  -- on the times to come; the first one that has not come yet ends the show's turn
  induction times generalizing h s with
  | nil => exact ⟨rfl, h.bubbles, h.bubbleCount, rfl⟩
  | cons time later ih =>
    rw [showDue]
    split
    · exact ⟨rfl, h.bubbles, h.bubbleCount, rfl⟩
    · obtain ⟨hStarted, bubbles, count, hNext⟩ := s.showNext_frame h now
      obtain ⟨hSame, others, more, hRest⟩ := ih (s.showNext h now).2 (s.showNext h now).1
      refine ⟨hSame.trans hStarted, others, more, ?_⟩
      dsimp only
      rw [hRest, hNext]

theorem tick_frame (s : BubbleShow) (h : Host) (now : Nanos) :
    (s.tick h now).1.started = s.started ∧
      ∃ bubbles count, (s.tick h now).2 = { h with bubbles := bubbles, bubbleCount := count } :=
  showDue_frame h now s _

/-- All that a show needs to know of the host is how many bubbles there were. -/
theorem showDue_alike {h h' : Host} (hCount : h.bubbleCount = h'.bubbleCount) (now : Nanos) (s : BubbleShow)
    (times : List Nanos) :
    (showDue h now s times).1 = (showDue h' now s times).1 ∧
      (showDue h now s times).2.bubbleCount = (showDue h' now s times).2.bubbleCount := by
  induction times generalizing h h' s with
  | nil => exact ⟨rfl, hCount⟩
  | cons time later ih =>
    have hNext : (s.showNext h now).1 = (s.showNext h' now).1 ∧
        (s.showNext h now).2.bubbleCount = (s.showNext h' now).2.bubbleCount := by
      unfold showNext
      split
      · exact ⟨rfl, hCount⟩
      · simp only [Host.showBubble, hCount, and_self]
    rw [showDue, showDue]
    split
    · exact ⟨rfl, hCount⟩
    · dsimp only
      rw [hNext.1]
      exact ih hNext.2 (s.showNext h' now).1

theorem tick_alike {h h' : Host} (hCount : h.bubbleCount = h'.bubbleCount) (s : BubbleShow) (now : Nanos) :
    (s.tick h now).1 = (s.tick h' now).1 ∧ (s.tick h now).2.bubbleCount = (s.tick h' now).2.bubbleCount :=
  showDue_alike hCount now s _

end BubbleShow

namespace App

/-! ## Operations -/

/-- What can happen to the showcase. -/
inductive Op where
  | handle (e : Event)
  | tick
  | draw (area : Rect) (b : Buffer)
  | start (force : Bool)
  | startShow
  /-- What reaches the host past the screen: calls through handles, views that change by themselves, other writers to the
  store. -/
  | onHost (op : Host.Op)

/-- Carries out an operation at a reading of the clock. -/
def perform (a : App) (op : Op) (now : Nanos) : App :=
  match op with
  | .handle e => (a.handle e now).1
  | .tick => (a.tick now).1
  | .draw area b => (a.draw area b now).1
  | .start force => (a.start force now).1
  | .startShow => a.startShow now
  | .onHost op => (hear { a with host := (a.host.perform op now).1 } (a.host.perform op now).2).1

/-- The showcase after a sequence of operations. -/
def after (a : App) (moments : List (Op × Nanos)) : App := moments.foldl (fun a m => a.perform m.1 m.2) a

theorem after_induction {P : App → Prop} (hStep : ∀ a op now, P a → P (a.perform op now)) {a : App} (hStart : P a)
    (moments : List (Op × Nanos)) : P (a.after moments) := by
  induction moments generalizing a with
  | nil => exact hStart
  | cons m rest ih => exact ih (hStep a m.1 m.2 hStart)

/-! ## Frames -/

/-- What is heard changes the status and nothing else. -/
theorem hear_frame (a : App) (notices : List Notice) :
    ∃ status, (hear a notices).1 = { a with screen := { a.screen with status := status } } := by
  -- on the notices that have a text; each replaces the status that the one before has set
  rw [hear]
  dsimp only
  induction notices.filterMap Notice.text? generalizing a with
  | nil => exact ⟨a.screen.status, rfl⟩
  | cons text rest ih =>
    obtain ⟨status, hRest⟩ := ih (a.setStatus text)
    exact ⟨status, hRest⟩

theorem hear_host (a : App) (notices : List Notice) : (hear a notices).1.host = a.host := by
  obtain ⟨status, hHeard⟩ := a.hear_frame notices
  rw [hHeard]

theorem hear_playing (a : App) (notices : List Notice) : (hear a notices).1.playing = a.playing := by
  obtain ⟨status, hHeard⟩ := a.hear_frame notices
  rw [hHeard]

/-- What plays has its turn first at a tick. -/
def played (a : App) (now : Nanos) : Option BubbleShow × Host :=
  match a.playing with
  | none => (none, a.host)
  | some s => (if (s.tick a.host now).1.isFinished then none else some (s.tick a.host now).1, (s.tick a.host now).2)

theorem tick_eq (a : App) (now : Nanos) :
    a.tick now = hear { a with playing := (a.played now).1, host := ((a.played now).2.tick now).1 }
      ((a.played now).2.tick now).2 := by
  unfold tick played
  cases hPlaying : a.playing with
  | none =>
    dsimp only
    rw [← hPlaying]
  | some s => rfl

theorem played_frame (a : App) (now : Nanos) :
    ∃ bubbles count, (a.played now).2 = { a.host with bubbles := bubbles, bubbleCount := count } := by
  unfold played
  split
  · exact ⟨a.host.bubbles, a.host.bubbleCount, rfl⟩
  · exact (BubbleShow.tick_frame _ _ _).2

/-- A tick starts no show. -/
theorem played_started {a : App} {now : Nanos} {s : BubbleShow} (hAfter : (a.played now).1 = some s) :
    ∃ earlier, a.playing = some earlier ∧ earlier.started = s.started := by
  unfold played at hAfter
  cases hPlaying : a.playing with
  | none =>
    rw [hPlaying] at hAfter
    cases hAfter
  | some earlier =>
    rw [hPlaying] at hAfter
    obtain ⟨-, hSame⟩ := Option.ite_none_left_eq_some.mp hAfter
    refine ⟨earlier, rfl, ?_⟩
    rw [← Option.some.inj hSame]
    exact (earlier.tick_frame a.host now).1.symm

/-- A frame of the host, over a screen that has recorded where its views are. -/
theorem draw_eq (a : App) (area : Rect) (b : Buffer) (now : Nanos) :
    ∃ slider buttons picture anchors,
      let h := { a.host with anchors := anchors }
      (a.draw area b now).1 =
        (hear { a with
          screen := { a.screen with slider := slider, buttons := buttons }
          host := (h.perform (.draw area picture) now).1 } (h.perform (.draw area picture) now).2).1 := by
  have hScreen : ∃ slider buttons, (a.screen.draw area b a.host.anchors).1 =
      { a.screen with slider := slider, buttons := buttons } := ⟨_, _, rfl⟩
  obtain ⟨slider, buttons, hScreen⟩ := hScreen
  refine ⟨slider, buttons, (a.screen.draw area b a.host.anchors).2.1, (a.screen.draw area b a.host.anchors).2.2, ?_⟩
  unfold draw
  dsimp only
  rw [hScreen]
  rfl

theorem start_host (a : App) (force : Bool) (now : Nanos) :
    ∃ request, (a.start force now).1.host = (a.host.startWith a.tour request now).1 := by
  refine ⟨{ settings := a.settings
            style := a.style
            delegate := some ⟨[.callback completedStatus]⟩
            force := force }, ?_⟩
  unfold start
  dsimp only
  split
  · exact hear_host ..
  · exact hear_host ..

/-! ## The run that the host holds -/

/-- The run that the host holds, if it holds one, is sound. -/
def Sound (a : App) : Prop := ∀ id run, a.host.active = some (id, run) → run.Sound

theorem startWith_sound {h : Host} {provider : Provider} {request : StartRequest} {now : Nanos}
    (hSound : ∀ id run, h.active = some (id, run) → run.Sound) :
    ∀ id run, (h.startWith provider request now).1.active = some (id, run) → run.Sound := by
  intro id run hAfter
  rcases h.startWith_cases provider request now with ⟨-, hSpared⟩ | ⟨launched, -, hLaunched⟩
  · rcases hSpared.active with hSame | hNone
    · exact hSound id run (hSame ▸ hAfter)
    · rw [hNone] at hAfter
      cases hAfter
  · rw [hLaunched.active] at hAfter
    cases hAfter
    exact hLaunched.sound

theorem Sound.start {a : App} (hSound : a.Sound) (force : Bool) (now : Nanos) : (a.start force now).1.Sound := by
  obtain ⟨request, hHost⟩ := a.start_host force now
  intro id run hActive
  rw [hHost] at hActive
  exact startWith_sound hSound id run hActive

theorem Sound.obey {a : App} (hSound : a.Sound) (action : ScreenAction) (now : Nanos) : (a.obey action now).1.Sound := by
  cases action with
  | restart => exact hSound.start true now
  | _ => exact hSound

theorem Sound.handleOnScreen {a : App} (hSound : a.Sound) (e : Event) (now : Nanos) :
    (a.handleOnScreen e now).1.Sound := by
  cases e with
  | key k =>
    unfold App.handleOnScreen
    dsimp only
    split
    · exact Sound.obey (a := { a with screen := (a.screen.onKey k.key).1 }) hSound _ now
    · exact hSound
  | _ => exact hSound

/-- Every operation keeps the run that is held sound, whether the host or the screen takes it. -/
theorem perform_sound {a : App} (hSound : a.Sound) (op : Op) (now : Nanos) : (a.perform op now).Sound := by
  have hHeard : ∀ (b : App) notices, b.Sound → (hear b notices).1.Sound := by
    intro b notices hBefore id run hActive
    rw [hear_host] at hActive
    exact hBefore id run hActive
  cases op with
  | handle e =>
    have hHost := hHeard { a with host := (a.host.handle e now).1 } (a.host.handle e now).2.2
      (Host.perform_sound hSound (.handle e) now)
    show (a.handle e now).1.Sound
    unfold handle
    dsimp only
    split
    · exact hHost
    · exact hHost.handleOnScreen e now
  | tick =>
    obtain ⟨bubbles, count, hPlayed⟩ := a.played_frame now
    have hBefore : ∀ id run, (a.played now).2.active = some (id, run) → run.Sound := by
      rw [hPlayed]
      exact hSound
    show (a.tick now).1.Sound
    rw [tick_eq]
    exact hHeard _ _ (Host.perform_sound hBefore .tick now)
  | draw area b =>
    obtain ⟨slider, buttons, picture, anchors, hDraw⟩ := a.draw_eq area b now
    have hBefore : ∀ id run, ({ a.host with anchors := anchors } : Host).active = some (id, run) → run.Sound := hSound
    show (a.draw area b now).1.Sound
    rw [hDraw]
    exact hHeard _ _ (Host.perform_sound hBefore (.draw area picture) now)
  | start force => exact hSound.start force now
  | startShow => exact hSound
  | onHost op => exact hHeard _ _ (Host.perform_sound hSound op now)

theorem launch_sound (tour : Provider) (store : Store) (disk : Disk) (options : AppOptions) (now : Nanos) :
    (launch tour store disk options now).1.Sound := by
  have hStart : ∀ a : App, a.host.active = none → (a.start options.force now).1.Sound := by
    intro a hNone
    exact Sound.start (fun _ _ hActive => nomatch hNone.symm.trans hActive) options.force now
  unfold launch
  dsimp only
  split
  · exact hStart _ rfl
  · exact hStart _ rfl

end App

end GuidedTour.Showcase
