import GuidedTour.Proofs.Host.Staying
import GuidedTour.Proofs.Showcase.Operation

/-!
# Stranded bubbles

The second and the third bubble of a show have no duration. They stay until the last one goes, whose callback removes
them. But a show that is replaced by another one before it has shown its last bubble never gets there, and then nothing
is left that could remove its bubbles. They are stranded. All other bubbles of all shows are gone once the last show is
over and its bubbles have had their time.

Main results:

* `BubbleShow.tick_turning` - a show keeps the account of the bubbles that wait for its last one.
* `Tidy.perform` - so does every operation of the showcase, and what it strands is added to what stays.
* `showcase_residue` - what is left of all shows in the end are the stranded bubbles.
-/

namespace GuidedTour.Showcase

open GuidedTour.Screen Completion Storage
open Host (Staying)

/-! ## One show -/

namespace BubbleShow

/-- The bubbles of a show that wait for its last one to be shown. -/
def waiting (s : BubbleShow) : List BubbleId := if s.isFinished then [] else s.kept

variable {left : List BubbleId} {limit now : Nanos} {first : Nat} {s : BubbleShow} {h : Host}

/-- What the bubbles of a show do in the end: a bubble that stays has no duration, and no callback; all others go within
ten seconds, and only the last one removes any, namely those that stay. -/
theorem stages_cases {kept : List BubbleId} {n : Nat} {stage : Stage} (hStage : (stages kept)[n]? = some stage) :
    (n < 4 ∧ stage.keep = true ∧ stage.options.duration = none ∧ stage.options.onFinished = none) ∨
    (stage.keep = false ∧ (∃ duration, stage.options.duration = some duration ∧ duration ≤ secs 10) ∧
      ∀ id, id ∈ (if n < 4 then [] else kept) ↔ ∃ c ∈ stage.options.onFinished, id ∈ c.removes) := by
  match n with
  | 0 =>
    obtain rfl := Option.some.inj hStage
    exact .inr ⟨rfl, ⟨_, rfl, by decide⟩, by simp⟩
  | 1 =>
    obtain rfl := Option.some.inj hStage
    exact .inl ⟨by decide, rfl, rfl, rfl⟩
  | 2 =>
    obtain rfl := Option.some.inj hStage
    exact .inl ⟨by decide, rfl, rfl, rfl⟩
  | 3 =>
    obtain rfl := Option.some.inj hStage
    exact .inr ⟨rfl, ⟨_, rfl, by decide⟩, by simp⟩
  | 4 =>
    obtain rfl := Option.some.inj hStage
    exact .inr ⟨rfl, ⟨_, rfl, by decide⟩, by simp⟩
  | n + 5 => cases hStage

theorem waiting_of_next (started : Nanos) {n : Nat} (hNext : n < 5) (kept : List BubbleId) :
    (BubbleShow.mk started n kept).waiting = kept :=
  if_neg (by simpa [isFinished, stageTimes] using hNext)

theorem waiting_of_last (started : Nanos) {n : Nat} (hLast : 5 ≤ n) (kept : List BubbleId) :
    (BubbleShow.mk started n kept).waiting = [] :=
  if_pos (by simpa [isFinished, stageTimes] using hLast)

/-- What a turn of a show keeps. `left` are bubbles that are not the show's. -/
structure Turning (left : List BubbleId) (limit : Nanos) (first : Nat) (s : BubbleShow) (h : Host) : Prop where
  stays : Staying (left ++ s.waiting) limit h
  fresh : s.next = 0 → s.kept = []
  later : first ≤ s.next

/-- A bubble that is shown joins those that wait, or goes by itself; the last one takes over all that wait. -/
theorem Turning.showNext (hTurning : Turning left limit first s h) (hSoon : now + secs 10 ≤ limit) :
    Turning left limit first (s.showNext h now).1 (s.showNext h now).2 := by
  obtain ⟨hStays, hFresh, hLater⟩ := hTurning
  obtain ⟨started, next, kept⟩ := s
  unfold BubbleShow.showNext
  dsimp only
  split
  · exact ⟨hStays, hFresh, hLater⟩
  · next stage hStage =>
    refine ⟨?_, fun hZero => absurd hZero (Nat.succ_ne_zero next), Nat.le_succ_of_le hLater⟩
    have hNext : next < 5 := (List.getElem?_eq_some_iff.mp hStage).1
    rw [waiting_of_next started hNext] at hStays
    rcases stages_cases hStage with ⟨hEarly, hKeep, hDuration, hQuiet⟩ | ⟨hGoes, ⟨d, hDuration, hShort⟩, hTaken⟩
    · rw [hKeep, if_pos rfl, waiting_of_next started (by omega), ← List.append_assoc]
      exact hStays.showLasting hDuration hQuiet
    · have hIn : now + d ≤ limit := (Nat.add_le_add_left hShort now).trans hSoon
      rw [hGoes, if_neg Bool.false_ne_true]
      by_cases hEarly : next < 4
      · rw [if_pos hEarly] at hTaken
        rw [waiting_of_next started (by omega)]
        exact Staying.showTimed (by rwa [List.append_nil]) hDuration hIn hTaken
      · rw [if_neg hEarly] at hTaken
        rw [waiting_of_last started (by omega), List.append_nil]
        exact hStays.showTimed hDuration hIn hTaken

theorem Turning.showDue (hTurning : Turning left limit first s h) (hSoon : now + secs 10 ≤ limit) (times : List Nanos) :
    Turning left limit first (BubbleShow.showDue h now s times).1 (BubbleShow.showDue h now s times).2 := by
  induction times generalizing s h with
  | nil => exact hTurning
  | cons time later ih =>
    rw [BubbleShow.showDue]
    split
    · exact hTurning
    · exact ih (hTurning.showNext hSoon)

end BubbleShow

namespace App

/-! ## Operations of the showcase -/

/-- Whether the operation is one of the showcase, which reaches the host only through the screen. -/
def Op.isOwn : Op → Bool
  | .onHost _ => false
  | _ => true

/-- What an operation does besides the shows: the host is asked for nothing that shows or removes bubbles, and the show
that plays goes on, or another one takes its place. -/
structure Beside (a a' : App) : Prop where
  host    : ∃ asked : List (Host.Op × Nanos), (∀ m ∈ asked, m.1.leaves = true) ∧ a'.host = a.host.after asked
  playing : a'.playing = a.playing ∨ ∃ now, a'.playing = some { started := now }

namespace Beside

/-- What happens on the screen only. -/
theorem idle {a a' : App} (hHost : a'.host = a.host)
    (hPlaying : a'.playing = a.playing ∨ ∃ now, a'.playing = some { started := now }) : Beside a a' :=
  ⟨⟨[], List.forall_mem_nil _, hHost⟩, hPlaying⟩

theorem trans {a b c : App} (h : Beside a b) (h' : Beside b c) : Beside a c := by
  obtain ⟨asked, hAsked, hHost⟩ := h.host
  obtain ⟨more, hMore, hHost'⟩ := h'.host
  refine ⟨⟨asked ++ more, List.forall_mem_append.mpr ⟨hAsked, hMore⟩, ?_⟩, ?_⟩
  · rw [hHost', hHost]
    exact (List.foldl_append ..).symm
  · rcases h'.playing with hSame | hFresh
    · rw [hSame]
      exact h.playing
    · exact .inr hFresh

/-- An operation of the host. -/
theorem asked {a a' : App} (op : Host.Op) (now : Nanos) (hLeaves : op.leaves = true)
    (hHost : a'.host = (a.host.perform op now).1) (hPlaying : a'.playing = a.playing) : Beside a a' :=
  ⟨⟨[(op, now)], List.forall_mem_singleton.mpr hLeaves, hHost⟩, .inl hPlaying⟩

theorem hear (a : App) (notices : List Notice) : Beside a (App.hear a notices).1 :=
  .idle (a.hear_host notices) (.inl (a.hear_playing notices))

end Beside

theorem start_beside (a : App) (force : Bool) (now : Nanos) :
    Beside a (a.start force now).1 ∧ (a.start force now).1.playing = a.playing := by
  have hPlaying : (a.start force now).1.playing = a.playing := by
    unfold start
    dsimp only
    split
    · exact hear_playing ..
    · exact hear_playing ..
  obtain ⟨request, hHost⟩ := a.start_host force now
  refine ⟨.asked (.start { request with provider := some a.tour }) now rfl ?_ hPlaying, hPlaying⟩
  rw [hHost]
  rfl

theorem obey_beside (a : App) (action : ScreenAction) (now : Nanos) : Beside a (a.obey action now).1 := by
  cases action with
  | none => exact .idle rfl (.inl rfl)
  | quit => exact .idle rfl (.inl rfl)
  | restart => exact (a.start_beside true now).1
  | showBubbles => exact .idle rfl (.inr ⟨now, rfl⟩)
  | forgetCompletion =>
    exact .asked (.alter (a.host.store.markCompleted a.host.disk a.tour.identity false).1
      (a.host.store.markCompleted a.host.disk a.tour.identity false).2.1) now rfl rfl rfl

theorem handleOnScreen_beside (a : App) (e : Event) (now : Nanos) : Beside a (a.handleOnScreen e now).1 := by
  cases e with
  | key k =>
    unfold handleOnScreen
    dsimp only
    split
    · have hScreen : Beside a { a with screen := (a.screen.onKey k.key).1 } := .idle rfl (.inl rfl)
      exact hScreen.trans (obey_beside _ _ now)
    · exact .idle rfl (.inl rfl)
  | mouse m => exact .idle rfl (.inl rfl)
  | other => exact .idle rfl (.inl rfl)

theorem handle_beside (a : App) (e : Event) (now : Nanos) : Beside a (a.handle e now).1 := by
  have hHost : Beside a { a with host := (a.host.handle e now).1 } := .asked (.handle e) now rfl rfl rfl
  have hHeard := hHost.trans (.hear _ (a.host.handle e now).2.2)
  unfold handle
  dsimp only
  split
  · exact hHeard
  · exact hHeard.trans (handleOnScreen_beside _ e now)

theorem draw_beside (a : App) (area : Rect) (b : Buffer) (now : Nanos) : Beside a (a.draw area b now).1 := by
  obtain ⟨slider, buttons, picture, anchors, hDraw⟩ := a.draw_eq area b now
  dsimp only at hDraw
  rw [hDraw]
  refine ⟨⟨[(.arrange anchors, now), (.draw area picture, now)], ?_, hear_host ..⟩, (Beside.hear _ _).playing⟩
  exact List.forall_mem_cons.mpr ⟨rfl, List.forall_mem_singleton.mpr rfl⟩

/-- Every operation of the showcase but a tick happens besides the shows. -/
theorem perform_beside (a : App) {op : Op} (hOwn : op.isOwn = true) (hTick : op ≠ .tick) (now : Nanos) :
    Beside a (a.perform op now) := by
  cases op with
  | handle e => exact a.handle_beside e now
  | tick => exact absurd rfl hTick
  | draw area b => exact a.draw_beside area b now
  | start force => exact (a.start_beside force now).1
  | startShow => exact .idle rfl (.inr ⟨now, rfl⟩)
  | onHost op => cases hOwn

/-! ## What is stranded -/

/-- The bubbles that an operation strands: they wait for the last one of a show that another one replaces. A show that
has shown fewer bubbles than the one before is another one. -/
def strands (a : App) (op : Op) (now : Nanos) : List BubbleId :=
  match a.playing, (a.perform op now).playing with
  | some s, some s' => if s'.next < s.next then s.kept else []
  | _, _ => []

/-- The bubbles that a sequence of operations strands. -/
def stranded (a : App) : List (Op × Nanos) → List BubbleId
  | [] => []
  | m :: rest => a.strands m.1 m.2 ++ stranded (a.perform m.1 m.2) rest

/-- The account of a showcase: bubbles that are left by earlier shows stay, and so do those of the show that plays until
its last one is shown. -/
structure Tidy (left : List BubbleId) (limit : Nanos) (a : App) : Prop where
  stays : Staying (left ++ a.playing.elim [] (·.kept)) limit a.host
  plays : ∀ s, a.playing = some s → s.isFinished = false ∧ (s.next = 0 → s.kept = [])

namespace Tidy

variable {left : List BubbleId} {limit now : Nanos} {a : App} {op : Op}

/-- The show that plays is further on after its turn, or over. -/
theorem played (hTidy : Tidy left limit a) (hSoon : a.playing.isSome = true → now + secs 10 ≤ limit) :
    Staying (left ++ (a.played now).1.elim [] (·.kept)) limit (a.played now).2 ∧
      ∀ s', (a.played now).1 = some s' → (s'.isFinished = false ∧ (s'.next = 0 → s'.kept = [])) ∧
        ∀ s, a.playing = some s → s.next ≤ s'.next := by
  obtain ⟨hStays, hPlays⟩ := hTidy
  unfold App.played
  cases hShow : a.playing with
  | none =>
    rw [hShow] at hStays
    exact ⟨hStays, fun s' hNone => nomatch hNone⟩
  | some s =>
    obtain ⟨hUnfinished, hFresh⟩ := hPlays s hShow
    have hWaiting : s.waiting = s.kept := if_neg (Bool.eq_false_iff.mp hUnfinished)
    rw [hShow, Option.elim_some, ← hWaiting] at hStays
    have hTurn : BubbleShow.Turning left limit s.next (s.tick a.host now).1 (s.tick a.host now).2 :=
      BubbleShow.Turning.showDue ⟨hStays, hFresh, Nat.le_refl _⟩ (hSoon (by rw [hShow]; rfl)) _
    have hLeft := hTurn.stays
    unfold BubbleShow.waiting at hLeft
    dsimp only
    split
    · next hOver =>
      rw [if_pos hOver] at hLeft
      exact ⟨hLeft, fun s' hNone => nomatch hNone⟩
    · next hGoesOn =>
      rw [if_neg hGoesOn] at hLeft
      refine ⟨hLeft, fun s' hSame => ?_⟩
      obtain rfl := Option.some.inj hSame
      refine ⟨⟨Bool.eq_false_iff.mpr hGoesOn, hTurn.fresh⟩, fun earlier hEarlier => ?_⟩
      rw [← Option.some.inj hEarlier]
      exact hTurn.later

/-- A tick strands nothing. -/
theorem tick (hTidy : Tidy left limit a) (hSoon : a.playing.isSome = true → now + secs 10 ≤ limit) :
    Tidy left limit (a.perform .tick now) ∧ a.strands .tick now = [] := by
  have hHost : (a.perform .tick now).host = ((a.played now).2.tick now).1 := by
    show (a.tick now).1.host = _
    rw [tick_eq, hear_host]
  have hPlaying : (a.perform .tick now).playing = (a.played now).1 := by
    show (a.tick now).1.playing = _
    rw [tick_eq, hear_playing]
  obtain ⟨hStays, hPlays⟩ := hTidy.played hSoon
  refine ⟨⟨?_, ?_⟩, ?_⟩
  · rw [hHost, hPlaying]
    exact hStays.carry (Host.tick_bubbles _ now) rfl
  · rw [hPlaying]
    exact fun s hShow => (hPlays s hShow).1
  · unfold strands
    rw [hPlaying]
    split
    · next s s' hShow hShow' => exact if_neg (Nat.not_lt.mpr ((hPlays s' hShow').2 s hShow))
    · rfl

/-- Every operation of the showcase keeps the account, and what it strands is left for good. -/
theorem perform (hTidy : Tidy left limit a) (hOwn : op.isOwn = true)
    (hSoon : a.playing.isSome = true → now + secs 10 ≤ limit) :
    Tidy (left ++ a.strands op now) limit (a.perform op now) := by
  by_cases hTick : op = .tick
  · obtain ⟨hNext, hNothing⟩ := hTidy.tick hSoon
    rw [hTick, hNothing, List.append_nil]
    exact hNext
  obtain ⟨⟨asked, hAsked, hHost⟩, hPlaying⟩ := a.perform_beside hOwn hTick now
  obtain ⟨hStays, hPlays⟩ := hTidy
  have hAfter := hStays.after hAsked
  rw [← hHost] at hAfter
  rcases hPlaying with hSame | ⟨since, hFresh⟩
  · -- the show goes on
    have hNothing : a.strands op now = [] := by
      unfold strands
      rw [hSame]
      split
      · next s s' hShow hShow' =>
        cases hShow.symm.trans hShow'
        exact if_neg (Nat.lt_irrefl _)
      · rfl
    rw [hNothing, List.append_nil]
    exact ⟨hSame.symm ▸ hAfter, hSame.symm ▸ hPlays⟩
  · -- another one takes its place
    have hAll : a.strands op now = a.playing.elim [] (·.kept) := by
      unfold strands
      rw [hFresh]
      cases hShow : a.playing with
      | none => rfl
      | some s =>
        dsimp only [Option.elim_some]
        split
        · rfl
        · next hZero => exact ((hPlays s hShow).2 (Nat.eq_zero_of_not_pos hZero)).symm
    rw [hAll]
    refine ⟨?_, fun s hShow => ?_⟩
    · rw [hFresh]
      exact (List.append_nil _).symm ▸ hAfter
    · obtain rfl := Option.some.inj (hFresh.symm.trans hShow)
      exact ⟨rfl, fun _ => rfl⟩

/-- As long as no show plays nothing is stranded, whatever the clock says. -/
theorem perform_silent (hTidy : Tidy left limit a) (hOwn : op.isOwn = true) (hSilent : a.playing = none)
    (now : Nanos) : Tidy left limit (a.perform op now) := by
  have hNever : a.playing.isSome = true → now + secs 10 ≤ limit := by
    rw [hSilent]
    exact fun hSome => nomatch hSome
  have hNext := hTidy.perform hOwn hNever
  have hNothing : a.strands op now = [] := by
    unfold strands
    rw [hSilent]
  rwa [hNothing, List.append_nil] at hNext

/-- Over a sequence of operations, whatever is stranded on the way is left. -/
theorem after (hTidy : Tidy left limit a) {moments : List (Op × Nanos)} (hOwn : ∀ m ∈ moments, m.1.isOwn = true)
    (hSoon : ∀ m ∈ moments, m.2 + secs 10 ≤ limit) : Tidy (left ++ a.stranded moments) limit (a.after moments) := by
  induction moments generalizing left a with
  | nil => exact (List.append_nil left).symm ▸ hTidy
  | cons m rest ih =>
    obtain ⟨hFirst, hRest⟩ := List.forall_mem_cons.mp hOwn
    obtain ⟨hNow, hLater⟩ := List.forall_mem_cons.mp hSoon
    have hNext := ih (hTidy.perform hFirst fun _ => hNow) hRest hLater
    rwa [List.append_assoc] at hNext

end Tidy

/-- Whether no show plays, at first and after each of the operations. -/
def quiet (a : App) : List (Op × Nanos) → Bool
  | [] => a.playing.isNone
  | m :: rest => a.playing.isNone && quiet (a.perform m.1 m.2) rest

theorem Tidy.after_quiet {left : List BubbleId} {limit : Nanos} {a : App} (hTidy : Tidy left limit a)
    {moments : List (Op × Nanos)} (hOwn : ∀ m ∈ moments, m.1.isOwn = true) (hQuiet : a.quiet moments = true) :
    Tidy left limit (a.after moments) ∧ (a.after moments).playing = none := by
  induction moments generalizing a with
  | nil => exact ⟨hTidy, Option.isNone_iff_eq_none.mp hQuiet⟩
  | cons m rest ih =>
    rw [quiet, Bool.and_eq_true] at hQuiet
    obtain ⟨hFirst, hRest⟩ := List.forall_mem_cons.mp hOwn
    exact ih (hTidy.perform_silent hFirst (Option.isNone_iff_eq_none.mp hQuiet.1) m.2) hRest hQuiet.2

theorem launch_tidy (tour : Provider) (store : Store) (disk : Disk) (options : AppOptions) (since limit : Nanos) :
    Tidy [] limit (launch tour store disk options since).1 := by
  have hStart : ∀ a : App, a.host.bubbles = [] → a.playing = none → Tidy [] limit
      (if options.bubbles then (a.start options.force since).1.startShow since else (a.start options.force since).1) := by
    intro a hNone hSilent
    have hTidy : Tidy [] limit a := by
      refine ⟨?_, fun s hShow => nomatch hSilent.symm.trans hShow⟩
      rw [hSilent]
      exact .empty hNone limit
    have hStarted : Tidy [] limit (a.perform (.start options.force) since) := hTidy.perform_silent rfl hSilent since
    have hShow : Tidy [] limit ((a.perform (.start options.force) since).perform .startShow since) :=
      hStarted.perform_silent rfl ((a.start_beside options.force since).2.trans hSilent) since
    split
    · exact hShow
    · exact hStarted
  exact hStart
    { screen := { title := "Lumen" }
      host := { store := store, disk := disk, provider := some tour }
      tour := tour
      settings := options.settings
      style := options.style } rfl rfl

/--
**What shows leave behind.** Whatever events, ticks and frames a showcase goes through, also when shows of bubbles are
started again and again: once no show plays, and ten seconds have passed since the last one did, a tick leaves exactly
the stranded bubbles, those that waited for the last bubble of a show when another one took its place. If there are
none, nothing is left.
-/
theorem showcase_residue (tour : Provider) (store : Store) (disk : Disk) (options : AppOptions) (since : Nanos)
    (before later : List (Op × Nanos)) (last now : Nanos)
    (hOwn : ∀ m ∈ before ++ later, m.1.isOwn = true) (hBefore : ∀ m ∈ before, m.2 ≤ last)
    (hQuiet : ((launch tour store disk options since).1.after before).quiet later = true)
    (hLate : last + secs 10 ≤ now) :
    let a := (launch tour store disk options since).1
    let left := ((a.after before).after later).perform .tick now
    left.host.visibleIds = a.stranded before ∧ left.host.visibleCount = (a.stranded before).length := by
  intro a left
  obtain ⟨hOwnBefore, hOwnLater⟩ := List.forall_mem_append.mp hOwn
  have hShown : Tidy (a.stranded before) (last + secs 10) (a.after before) :=
    (launch_tidy tour store disk options since (last + secs 10)).after hOwnBefore
      fun m hm => Nat.add_le_add_right (hBefore m hm) _
  obtain ⟨hTidy, hSilent⟩ := hShown.after_quiet hOwnLater hQuiet
  have hStays := hTidy.stays
  rw [hSilent, Option.elim_none, List.append_nil] at hStays
  have hHost : left.host = (((a.after before).after later).host.tick now).1 := by
    show (((a.after before).after later).tick now).1.host = _
    rw [tick_eq, hear_host, App.played, hSilent]
  have hLeft : left.host.visibleIds = a.stranded before := by
    rw [hHost]
    exact hStays.tick_left hLate
  refine ⟨hLeft, ?_⟩
  rw [← Host.length_visibleIds, hLeft]

/-- A show that has shown two bubbles when the key for another one is pressed; that one is over six seconds later. -/
theorem showcase_residue_replaced :
    let a := (launch ⟨"tour", []⟩ (.memory .empty) .fresh { bubbles := true } 0).1
    let before : List (Op × Nanos) := [(.tick, 0), (.tick, secs 2), (.handle (.key ⟨.char 'b', .press, false⟩), secs 3),
      (.tick, secs 3), (.tick, secs 9)]
    let later : List (Op × Nanos) := [(.handle (.key ⟨.char 'b', .release, false⟩), secs 10), (.tick, secs 15)]
    let left := ((a.after before).after later).perform .tick (secs 19)
    (a.after before).quiet later = true ∧ a.stranded before = [1] ∧ left.host.visibleIds = [1] := by
  intro a before later left
  have hStranded : a.stranded before = [1] := by decide +kernel
  have hQuiet : (a.after before).quiet later = true := by decide +kernel
  have hBefore : ∀ m ∈ before, m.2 ≤ secs 9 := by simp [before, secs, millis]
  obtain ⟨hLeft, -⟩ := showcase_residue ⟨"tour", []⟩ (.memory .empty) .fresh { bubbles := true } 0 before later
    (secs 9) (secs 19) (by decide) hBefore hQuiet (by decide)
  rw [hStranded] at hLeft
  exact ⟨hQuiet, hStranded, hLeft⟩

/-- The show that was started last has shown its last bubble, and no key was pressed since then; ten seconds later there
is a bubble all the same. -/
theorem replaced_show_lingers :
    let a := (launch ⟨"tour", []⟩ (.memory .empty) .fresh { bubbles := true } 0).1
    let before : List (Op × Nanos) := [(.tick, 0), (.tick, secs 2), (.handle (.key ⟨.char 'b', .press, false⟩), secs 3),
      (.tick, secs 3)]
    (a.after before).playing.isSome = true ∧ ((a.after before).perform .tick (secs 9)).playing.isNone = true ∧
      (((a.after before).perform .tick (secs 9)).perform .tick (secs 19)).host.visibleCount ≠ 0 := by
  intro a before
  exact ⟨by decide +kernel, by decide +kernel, by decide +kernel⟩

end App

end GuidedTour.Showcase
