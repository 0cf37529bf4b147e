import GuidedTour.Proofs.Bubble.Destination

/-!
# Arrows that turn

Where the arrow of the next step points the other way, it turns halfway through the move there. The turn is noted with
the direction until then and the reading of the clock at which it is due, and there is room for one note only: a step
that needs no turn leaves the note of an earlier one, a step that comes before a turn was made replaces it, and a step
without an arrow drops it. Steps may follow each other faster than the turns that they noted, and a frame that cannot
place the bubble takes up nothing, so that the note is met by a later frame.

What keeps a note from doing harm is that a step leaves it only in two cases: it is due already, and stays so since the
clock does not go back, or the direction that it holds is the one that the step asks for. `Turning` says so of every
note, `Watched.step_sound` that it is kept by all that can happen to a bubble.

A bubble takes up the step of the first frame that places it after it was told to show another one; that a later frame
asks for a different step does not change it. `Watched` is a bubble together with what an onlooker writes down of it.

Main results:

* `sendTo_flip` - where the turn that a bubble has noted comes from.
* `Turning.reported` - what the arrow reports of its turn.
* `Watched.after_sound` - a bubble takes up steps soundly, whatever happens to it.
* `arrow_turns` - the arrow of a step that was taken up, from then on.
-/

namespace GuidedTour

open Layout Motion Screen

/-- The direction that a step of this kind asks for. -/
def StepKind.direction : StepKind → Option ArrowDirection
  | .standalone _ => none
  | .highlighted _ location => some (.ofLocation location)

theorem Layout.stepConstraints_direction (step : Step) (style : BubbleStyle) (margin : UInt16) (ctx : Context) :
    (stepConstraints step style margin ctx).arrow.map (·.2) = step.kind.direction := by
  unfold stepConstraints StepKind.direction
  split
  · next hKind => rw [hKind]; rfl
  · next hKind => rw [hKind]; rfl
  · next hKind => rw [hKind]; rfl

namespace Bubble

/-! ## What the arrow reports -/

namespace View

/-- The direction of the arrow, as it is reported together with its bounds. -/
def reported (v : View) (now : Nanos) : Option ArrowDirection := (v.arrowAt now).map (·.direction)

/-- Without an arrow there is nothing that points or turns. -/
def Coherent (v : View) : Prop := v.arrow = none → v.direction = none ∧ v.flip = none

variable {v : View} {now later : Nanos}

theorem directionAt_none (h : v.flip = none) : v.directionAt now = v.direction := by
  rw [directionAt, h]

theorem directionAt_some {f : ArrowFlip} (h : v.flip = some f) :
    v.directionAt now = if now < f.when then some f.old else v.direction := by
  rw [directionAt, h]

theorem Coherent.reported (h : v.Coherent) : v.reported now = v.directionAt now := by
  unfold View.reported arrowAt
  cases hArrow : v.arrow with
  | none =>
    obtain ⟨hDirection, hFlip⟩ := h hArrow
    rw [directionAt_none hFlip, hDirection]
    rfl
  | some t => cases v.directionAt now <;> rfl

/-- An arrow that has turned does not turn back. -/
theorem directionAt_later (hLater : now ≤ later) (hTurned : v.directionAt now = v.direction) :
    v.directionAt later = v.direction := by
  cases hFlip : v.flip with
  | none => exact directionAt_none hFlip
  | some f =>
    rw [directionAt_some hFlip] at hTurned ⊢
    split
    · -- before the turn it reports the same as before
      next hBefore => rwa [if_pos (Nat.lt_of_le_of_lt hLater hBefore)] at hTurned
    · rfl

/-! ## Sending an arrow to its place -/

/-- The direction of an arrow is the one that the constraints are kept with. -/
theorem place_direction {size : CellSize} {ctx : Context} {placed : BubbleLayout} (h : v.place size ctx = .ok placed) :
    placed.arrow.map (·.direction) = v.constraints.arrow.map (·.2) := by
  unfold place at h
  -- where one of the two cannot be solved, nothing was placed
  cases hBubble : solve v.constraints.bubble size ctx with
  | error e =>
    rw [hBubble] at h
    cases h
  | ok bubble =>
    rw [hBubble] at h
    cases hConstraints : v.constraints.arrow with
    | none =>
      rw [hConstraints] at h
      cases h
      rfl
    | some arrow =>
      rw [hConstraints] at h
      change (solve arrow.1 v.style.arrowSize { ctx with bubble := some bubble } >>= _) = _ at h
      cases hArrow : solve arrow.1 v.style.arrowSize { ctx with bubble := some bubble } with
      | error e =>
        rw [hArrow] at h
        cases h
      | ok bounds =>
        rw [hArrow] at h
        cases h
        rfl

/-- Where a turn that is noted comes from: it was noted before, or it is the one from the direction until now to the
other, halfway through the course that the arrow is sent on. On a new course a turn that was noted before and is still to
come is one from the direction that the arrow is to have. -/
theorem sendTo_flip {placed : BubbleLayout} {course : Option (Nanos × Nanos)} {f : ArrowFlip}
    (h : f ∈ (v.sendTo placed now course).flip) :
    (f ∈ v.flip ∧ (course ≠ none → now < f.when → placed.arrow.map (·.direction) = some f.old)) ∨
      ∃ started duration, course = some (started, duration) ∧ f.when = started + duration / 2 ∧
        v.directionAt now = some f.old := by
  obtain ⟨bubble, arrow⟩ := placed
  cases arrow with
  | none => cases h
  | some arrow =>
    -- where the bubble is sent does not count for what is reported
    have hSent : ({ v with frame := some (Tween.send v.frame bubble now course) } : View).directionAt now =
        v.directionAt now := rfl
    simp only [sendTo, moveArrow, hSent] at h
    -- a turn that is still to come says what is reported now
    have hReported : f ∈ v.flip → now < f.when → v.directionAt now = some f.old := by
      intro hKept hBefore
      rw [directionAt_some hKept, if_pos hBefore]
    split at h
    · next previous started duration hNow =>
      split at h
      · -- the turn that is noted now
        obtain rfl := Option.some.inj h
        exact .inr ⟨started, duration, rfl, rfl, hNow⟩
      · next hSame =>
        refine .inl ⟨h, fun _ hBefore => ?_⟩
        rw [← hReported h hBefore, hNow, Option.map_some, not_not.mp hSame]
    · next hOther =>
      -- there is no course, or nothing is reported now, so no turn is still to come
      refine .inl ⟨h, fun hCourse hBefore => ?_⟩
      obtain ⟨⟨started, duration⟩, hCourse⟩ := Option.ne_none_iff_exists'.mp hCourse
      exact (hOther _ started duration (hReported h hBefore) hCourse).elim

theorem sendTo_direction (v : View) (placed : BubbleLayout) (now : Nanos) (course : Option (Nanos × Nanos)) :
    (v.sendTo placed now course).direction = placed.arrow.map (·.direction) := by
  obtain ⟨bubble, arrow⟩ := placed
  cases arrow <;> rfl

theorem sendTo_coherent (v : View) (placed : BubbleLayout) (now : Nanos) (course : Option (Nanos × Nanos)) :
    (v.sendTo placed now course).Coherent := by
  obtain ⟨bubble, arrow⟩ := placed
  cases arrow with
  | none => exact fun _ => ⟨rfl, rfl⟩
  | some arrow => exact fun hNone => absurd hNone (Option.some_ne_none _)

/-- Being sent to a place changes nothing about the move that was begun. -/
theorem sendTo_begun (v : View) (placed : BubbleLayout) (now : Nanos) (course : Option (Nanos × Nanos)) :
    (v.sendTo placed now course).moveStarted = v.moveStarted ∧
      (v.sendTo placed now course).transition = v.transition := by
  obtain ⟨bubble, arrow⟩ := placed
  cases arrow <;> exact ⟨rfl, rfl⟩

end View

/-! ## What an onlooker writes down -/

/-- What can happen to a bubble. Time passes only by `pass`, and never back. -/
inductive Happening where
  | pass (duration : Nanos)
  | begin
  | layout (step : Step) (ctx : Context)
  | draw (content : Content) (area : Rect) (b : Buffer)

/-- A step that a bubble has taken up: its kind, when the move to it was begun, if at all, and what the arrow reported
just before each frame that placed the bubble for it, the latest first. -/
structure Taken where
  kind   : StepKind
  begun  : Option Nanos
  before : List (Option ArrowDirection)

/-- A bubble and the clock, and what an onlooker has written down: when a move was begun last, whether a step is due,
which the next frame that places the bubble takes up, and the step that was taken up last. -/
structure Watched where
  view  : View
  now   : Nanos := 0
  begun : Option Nanos := none
  due   : Bool := true
  taken : Option Taken := none

namespace Watched

/-- What is written down when a frame of a step has placed the bubble. Unless a step is due, it was a frame of the step
that was taken up, whatever step it was asked for. -/
def take (w : Watched) (kind : StepKind) : Taken :=
  let before := w.view.reported w.now
  match w.due, w.taken with
  | false, some taken => { taken with before := before :: taken.before }
  | _, _ => ⟨kind, w.begun, [before]⟩

/-- One thing happens to the bubble, and what there is to see of it is written down. -/
def step (w : Watched) : Happening → Watched
  | .pass duration => { w with now := w.now + duration }
  | .begin => { w with view := w.view.beginTransition w.now, begun := some w.now, due := true }
  | .layout step ctx =>
    match w.view.layout step ctx w.now with
    | (view, .ok _) => { w with view := view, due := false, taken := some (w.take step.kind) }
    | (view, .error _) => { w with view := view }
  | .draw content area b => { w with view := (w.view.draw content area b w.now).1 }

def after (w : Watched) (happenings : List Happening) : Watched := happenings.foldl step w

end Watched

/-! ## Turns that do no harm -/

/-- A bubble has taken up a step soundly: its arrow has the direction of the step, and a turn that it has noted is over,
or is one from that same direction, or is due halfway through the move to the step, and the arrow has reported the
direction before it in every frame of the step. -/
structure Turning (transition : Nanos) (taken : Taken) (v : View) (now : Nanos) : Prop where
  direction : v.direction = taken.kind.direction
  flip      : ∀ f ∈ v.flip, now < f.when → taken.kind.direction = some f.old ∨
    ∃ s ∈ taken.begun, f.when = s + transition / 2 ∧ ∀ before ∈ taken.before, before = some f.old

section Turning

variable {transition : Nanos} {taken : Taken} {v : View} {now : Nanos}

theorem Turning.later {t : Nanos} (h : Turning transition taken v now) (hLater : now ≤ t) :
    Turning transition taken v t :=
  ⟨h.direction, fun f hFlip hBefore => h.flip f hFlip (Nat.lt_of_le_of_lt hLater hBefore)⟩

theorem Turning.congr {u : View} (h : Turning transition taken v now) (hDirection : u.direction = v.direction)
    (hFlip : u.flip = v.flip) : Turning transition taken u now :=
  ⟨hDirection.trans h.direction, fun f hMem hBefore => h.flip f (hFlip ▸ hMem) hBefore⟩

/-- The arrow reports the direction of the step, or, before half of the move to it has passed, the one that it has
reported in every frame of the step. -/
theorem Turning.reported (h : Turning transition taken v now) (hCoherent : v.Coherent) :
    v.reported now = taken.kind.direction ∨
      ∃ s ∈ taken.begun, now < s + transition / 2 ∧ ∀ before ∈ taken.before, v.reported now = before := by
  rw [hCoherent.reported, ← h.direction]
  cases hFlip : v.flip with
  | none => exact .inl (View.directionAt_none hFlip)
  | some f =>
    rw [View.directionAt_some hFlip]
    split
    · next hBefore =>
      rcases h.flip f hFlip hBefore with hSame | ⟨s, hBegun, hWhen, hReported⟩
      · exact .inl (hSame.symm.trans h.direction.symm)
      · exact .inr ⟨s, hBegun, hWhen ▸ hBefore, fun before hMem => (hReported before hMem).symm⟩
    · exact .inl rfl

end Turning

/-- A bubble that takes up steps with moves of this length, and an onlooker who has written down what there was to see. -/
structure Watched.Sound (transition : Nanos) (w : Watched) : Prop where
  -- the bubble remembers what the onlooker has written down
  marked   : w.view.needsConfigure = w.due
  begun    : w.view.moveStarted = w.begun
  lasts    : w.view.transition = transition
  coherent : w.view.Coherent
  unturned : w.begun = none → w.view.flip = none
  -- until another step is due, the constraints are those of the step that was taken up
  tuned    : w.due = false → ∃ taken, w.taken = some taken ∧
    w.view.constraints.arrow.map (·.2) = taken.kind.direction
  turning  : ∀ taken ∈ w.taken, Turning transition taken w.view w.now

namespace Watched

variable {transition : Nanos} {w : Watched}

theorem take_due (hDue : w.due = true) (kind : StepKind) :
    w.take kind = ⟨kind, w.begun, [w.view.reported w.now]⟩ := by
  rw [take, hDue]

theorem take_again {taken : Taken} (hDue : w.due = false) (hTaken : w.taken = some taken) (kind : StepKind) :
    w.take kind = { taken with before := w.view.reported w.now :: taken.before } := by
  rw [take, hDue, hTaken]

/-- The arrow is given the direction of the step that is written down. -/
theorem Sound.take_direction (h : w.Sound transition) (step : Step) (ctx : Context) (start : Tween Bounds) :
    (w.view.readied start step ctx).constraints.arrow.map (·.2) = (w.take step.kind).kind.direction := by
  unfold View.readied
  dsimp only
  rw [h.marked]
  cases hDue : w.due with
  | true =>
    rw [take_due hDue]
    exact stepConstraints_direction step w.view.style w.view.margin ctx
  | false =>
    obtain ⟨taken, hTaken, hDirection⟩ := h.tuned hDue
    rw [take_again hDue hTaken]
    exact hDirection

/-- A frame of the step that was taken up sets no new course. -/
theorem Sound.course (h : w.Sound transition) :
    w.view.course = if w.due then w.begun.map fun s => (s, transition) else none := by
  rw [View.course, h.marked, h.begun, h.lasts]

section Sent

variable {step : Step} {ctx : Context} {start : Tween Bounds} {placed : BubbleLayout} {f : ArrowFlip}

/-- A turn that is still to come after a frame that has taken up a step. -/
theorem Sound.flip_due (h : w.Sound transition) (hDue : w.due = true)
    (hDirection : placed.arrow.map (·.direction) = step.kind.direction)
    (hFlip : f ∈ ((w.view.readied start step ctx).sendTo placed w.now w.view.course).flip) (hBefore : w.now < f.when) :
    step.kind.direction = some f.old ∨
      ∃ s ∈ w.begun, f.when = s + transition / 2 ∧ w.view.reported w.now = some f.old := by
  have hCourse := h.course
  rw [hDue, if_pos rfl] at hCourse
  rcases View.sendTo_flip hFlip with ⟨(hKept : f ∈ w.view.flip), hSame⟩ | ⟨started, duration, hSet, hWhen, hNow⟩
  · -- it was noted before, so a move was begun, and there is a course
    refine .inl (hDirection.symm.trans (hSame (fun hNone => ?_) hBefore))
    rw [hCourse, Option.map_eq_none_iff] at hNone
    rw [h.unturned hNone] at hKept
    cases hKept
  · -- it is noted by this frame, halfway through the move that was begun last
    rw [hCourse] at hSet
    obtain ⟨s, hBegun, hPair⟩ := Option.map_eq_some_iff.mp hSet
    cases hPair
    exact .inr ⟨_, hBegun, hWhen, h.coherent.reported.trans hNow⟩

/-- A frame of the step that was taken up notes no turn, and neither does any before a move was begun. -/
theorem Sound.flip_kept (h : w.Sound transition) (hStill : w.due = false ∨ w.begun = none)
    (hFlip : f ∈ ((w.view.readied start step ctx).sendTo placed w.now w.view.course).flip) : f ∈ w.view.flip := by
  have hCourse : w.view.course = none := by
    rw [h.course]
    rcases hStill with hTaken | hNone
    · rw [hTaken, if_neg Bool.false_ne_true]
    · rw [hNone, Option.map_none, ite_self]
  rcases View.sendTo_flip hFlip with ⟨hKept, -⟩ | ⟨started, duration, hSet, -, -⟩
  · exact hKept
  · rw [hCourse] at hSet
    cases hSet

/-- The arrow has turned to the step that is written down, or is to turn to it in time. -/
theorem Sound.turning_placed (h : w.Sound transition)
    (hDirection : placed.arrow.map (·.direction) = (w.take step.kind).kind.direction) :
    Turning transition (w.take step.kind) ((w.view.readied start step ctx).sendTo placed w.now w.view.course) w.now := by
  refine ⟨(View.sendTo_direction ..).trans hDirection, fun f hFlip hBefore => ?_⟩
  cases hDue : w.due with
  | true =>
    -- a step is taken up, and the onlooker has one direction to write down
    rw [take_due hDue] at hDirection ⊢
    rcases h.flip_due hDue hDirection hFlip hBefore with hSame | ⟨s, hBegun, hWhen, hReported⟩
    · exact .inl hSame
    · refine .inr ⟨s, hBegun, hWhen, fun before hMem => ?_⟩
      rw [List.mem_singleton.mp hMem, hReported]
  | false =>
    obtain ⟨taken, hTaken, -⟩ := h.tuned hDue
    have hKept := h.flip_kept (.inl hDue) hFlip
    rw [take_again hDue hTaken]
    rcases (h.turning taken hTaken).flip f hKept hBefore with hSame | ⟨s, hBegun, hWhen, hReported⟩
    · exact .inl hSame
    · refine .inr ⟨s, hBegun, hWhen, fun before hMem => ?_⟩
      -- the turn is still to come, so the direction before it is also what is reported now
      rcases List.mem_cons.mp hMem with rfl | hMem
      · rw [h.coherent.reported, View.directionAt_some hKept, if_pos hBefore]
      · exact hReported before hMem

/-- A frame that could not place the bubble: at most the constraints are new, and then a step is still due. -/
theorem Sound.frame_failed (h : w.Sound transition) (visible : Bool) :
    Sound transition { w with view := { w.view.readied start step ctx with visible := visible } } := by
  refine ⟨h.marked, h.begun, h.lasts, h.coherent, h.unturned, fun hDue => ?_,
    fun taken hTaken => (h.turning taken hTaken).congr rfl rfl⟩
  obtain ⟨taken, hTaken, hDirection⟩ := h.tuned hDue
  refine ⟨taken, hTaken, ?_⟩
  show (if w.view.needsConfigure then _ else _ : BubbleConstraints).arrow.map (·.2) = _
  rw [h.marked, if_neg (by rw [show w.due = false from hDue]; exact Bool.false_ne_true)]
  exact hDirection

/-- A frame that has placed the bubble: the step that is written down is taken up. -/
theorem Sound.frame_placed (h : w.Sound transition)
    (hPlace : (w.view.readied start step ctx).place (w.view.bubbleSize step.content ctx.container) ctx = .ok placed) :
    Sound transition
      { w with
        view := { (w.view.readied start step ctx).sendTo placed w.now w.view.course with
          needsConfigure := false, visible := true }
        due := false
        taken := some (w.take step.kind) } := by
  have hTaken := h.take_direction step ctx start
  have hTurning : Turning transition (w.take step.kind)
      ((w.view.readied start step ctx).sendTo placed w.now w.view.course) w.now :=
    h.turning_placed ((View.place_direction hPlace).trans hTaken)
  obtain ⟨-, hConstraints⟩ := (w.view.readied start step ctx).sendTo_keeps placed w.now w.view.course
  obtain ⟨hBegun, hLasts⟩ := (w.view.readied start step ctx).sendTo_begun placed w.now w.view.course
  have hCoherent := (w.view.readied start step ctx).sendTo_coherent placed w.now w.view.course
  refine ⟨rfl, hBegun.trans h.begun, hLasts.trans h.lasts, hCoherent, fun hNone => ?_, fun _ => ⟨_, rfl, ?_⟩,
    fun taken hMem => ?_⟩
  · -- a turn would have been noted before, but there was no move
    refine Option.eq_none_iff_forall_not_mem.mpr fun f hFlip => ?_
    have hKept := h.flip_kept (.inr hNone) hFlip
    rw [h.unturned hNone] at hKept
    cases hKept
  · exact (congrArg (·.arrow.map (·.2)) hConstraints).trans hTaken
  · obtain rfl := Option.some.inj hMem
    exact hTurning.congr rfl rfl

end Sent

theorem step_sound (h : w.Sound transition) (happening : Happening) : (w.step happening).Sound transition := by
  cases happening with
  | pass duration =>
    exact ⟨h.marked, h.begun, h.lasts, h.coherent, h.unturned, h.tuned, fun taken hTaken =>
      (h.turning taken hTaken).later (Nat.le_add_right _ _)⟩
  | begin =>
    exact ⟨rfl, rfl, h.lasts, h.coherent, nofun, nofun, fun taken hTaken =>
      (h.turning taken hTaken).congr rfl rfl⟩
  | layout step ctx =>
    obtain ⟨start, ⟨e, -, hLayout⟩ | ⟨placed, hPlace, hLayout⟩⟩ := w.view.layout_cases step ctx w.now
    · rw [Watched.step, hLayout]
      exact h.frame_failed _
    · rw [Watched.step, hLayout]
      exact h.frame_placed hPlace
  | draw content area b =>
    obtain ⟨drawn, hDrawn⟩ := w.view.draw_keeps content area b w.now
    rw [Watched.step, hDrawn]
    exact ⟨h.marked, h.begun, h.lasts, h.coherent, h.unturned, h.tuned, fun taken hTaken =>
      (h.turning taken hTaken).congr rfl rfl⟩

theorem after_sound (h : w.Sound transition) (happenings : List Happening) :
    (w.after happenings).Sound transition := by
  -- one thing after the other
  induction happenings generalizing w with
  | nil => exact h
  | cons happening rest ih => exact ih (step_sound h happening)

/-- A new bubble. -/
def opening (style : BubbleStyle) (margin : UInt16) (preferredWidth : Option UInt16) (transition : Nanos) : Watched :=
  { view := { style := style, margin := margin, preferredWidth := preferredWidth, transition := transition } }

theorem opening_sound (style : BubbleStyle) (margin : UInt16) (preferredWidth : Option UInt16) (transition : Nanos) :
    (opening style margin preferredWidth transition).Sound transition :=
  ⟨rfl, rfl, rfl, fun _ => ⟨rfl, rfl⟩, fun _ => rfl, nofun, nofun⟩

end Watched

/-! ## The arrow of a step -/

/-- What an arrow reports from `now` on, if a step was taken up with a move of this length. -/
structure TurnsFor (taken : Taken) (transition : Nanos) (v : View) (now : Nanos) : Prop where
  /-- When half of the move has passed, the arrow reports the direction of the step; -/
  halfway : ∀ s ∈ taken.begun, ∀ t, now ≤ t → s + transition / 2 ≤ t → v.reported t = taken.kind.direction
  /-- until then it may still report the one that it has reported just before the step's frames. -/
  earlier : ∀ s ∈ taken.begun, ∀ t, now ≤ t → t < s + transition / 2 → ∀ before ∈ taken.before,
    v.reported t = taken.kind.direction ∨ v.reported t = before
  /-- Without a move the arrow reports the direction of the step at once. -/
  atOnce  : taken.begun = none → ∀ t, now ≤ t → v.reported t = taken.kind.direction
  /-- Once it has reported the direction of the step, it reports no other. -/
  once    : ∀ t t', now ≤ t → t ≤ t' → v.reported t = taken.kind.direction → v.reported t' = taken.kind.direction

/--
**Turning halfway.** Whatever steps and frames a bubble has been through, if it has taken up a step, the direction that
its arrow reports is that of the step when half of the move has passed, and at once if there is no move; before that it
is the same or the one that was reported just before each frame of the step, and it changes once. No turn that was noted
for an earlier step shows.
-/
theorem arrow_turns {style : BubbleStyle} {margin : UInt16} {preferredWidth : Option UInt16} {transition : Nanos}
    {happenings : List Happening} {w : Watched} {taken : Taken}
    (hAfter : (Watched.opening style margin preferredWidth transition).after happenings = w)
    (hTaken : w.taken = some taken) : TurnsFor taken transition w.view w.now := by
  have hSound : w.Sound transition :=
    hAfter ▸ Watched.after_sound (Watched.opening_sound style margin preferredWidth transition) happenings
  have hTurning := hSound.turning taken hTaken
  -- from now on every report is the direction of the step or one of the first half of its move
  have hReported := fun t (hLater : w.now ≤ t) => (hTurning.later hLater).reported hSound.coherent
  refine ⟨fun s hBegun t hLater hHalf => ?_, fun s hBegun t hLater _ before hMem => ?_, fun hNone t hLater => ?_,
    fun t t' hLater hOrder hSame => ?_⟩
  · rcases hReported t hLater with hSame | ⟨s', hBegun', hBefore, -⟩
    · exact hSame
    · cases hBegun.symm.trans hBegun'
      exact absurd hBefore (Nat.not_lt.mpr hHalf)
  · rcases hReported t hLater with hSame | ⟨-, -, -, hAll⟩
    · exact .inl hSame
    · exact .inr (hAll before hMem)
  · rcases hReported t hLater with hSame | ⟨s', hBegun', -, -⟩
    · exact hSame
    · cases hNone.symm.trans hBegun'
  · rw [hSound.coherent.reported, ← hTurning.direction] at hSame ⊢
    exact View.directionAt_later hOrder hSame

/-- The arrow points up, is to turn for a step above the area, and before it has turned the next step is below the area
again and the one after it above: it turns for that one alone. -/
theorem arrow_turns_once :
    let anchor : Anchor := .rect ⟨30, 10, 10, 3⟩
    let frame (step : Step) : Happening := .layout step (.of ⟨0, 0, 80, 24⟩ .empty)
    let happenings : List Happening := [frame (.below anchor (.plain "1")), .begin, frame (.above anchor (.plain "2")),
      .pass 100, .begin, frame (.below anchor (.plain "3")), .pass 20, .begin, frame (.above anchor (.plain "4"))]
    let w := (Watched.opening {} 1 none 300).after happenings
    ∃ taken, w.taken = some taken ∧ taken.begun = some 120 ∧ w.view.reported 269 = some .up ∧
      w.view.reported 270 = some .down := by
  intro anchor frame happenings w
  have hNotes : w.taken.map (fun taken => (taken.begun, taken.kind.direction)) = some (some 120, some .down) := by
    decide +kernel
  obtain ⟨taken, hTaken, hPair⟩ := Option.map_eq_some_iff.mp hNotes
  obtain ⟨hBegun, hDirection⟩ := Prod.mk.inj hPair
  have hTurns := arrow_turns (show (Watched.opening {} 1 none 300).after happenings = w from rfl) hTaken
  refine ⟨taken, hTaken, hBegun, by decide +kernel, ?_⟩
  exact (hTurns.halfway 120 hBegun 270 (by decide +kernel) (by decide)).trans hDirection

/-- Being asked for another step is not enough for a bubble to take it up: nobody has told it that the step above the
area is a new one, and its arrow still points up at the area. -/
theorem unannounced_step_ignored :
    let anchor : Anchor := .rect ⟨30, 10, 10, 3⟩
    let ctx : Context := .of ⟨0, 0, 80, 24⟩ .empty
    let v : View := { style := {}, margin := 1, preferredWidth := some 40, transition := 300 }
    let below := v.layout (.below anchor (.plain "Below")) ctx 0
    let above := below.1.layout (.above anchor (.plain "Above")) ctx 0
    (∃ placed, below.2 = .ok placed) ∧ (∃ placed, above.2 = .ok placed) ∧
      above.1.reported 0 ≠ some (.ofLocation .above) := by
  intro anchor ctx v below above
  have hBelow : below.2 = .ok ⟨⟨31, 15, 9, 3⟩, some ⟨⟨34, 14, 3, 1⟩, .up⟩⟩ := by
    decide +kernel
  have hAbove : above.2 = .ok ⟨⟨31, 15, 9, 3⟩, some ⟨⟨34, 14, 3, 1⟩, .up⟩⟩ := by
    decide +kernel
  exact ⟨⟨_, hBelow⟩, ⟨_, hAbove⟩, by decide +kernel⟩

end Bubble

end GuidedTour
