import GuidedTour.Bubble.View
import GuidedTour.Overlay.Veil
import GuidedTour.Warning

/-!
# Runs of a walkthrough

A run shows the steps of a walkthrough one after the other. It begins not started; starting it shows the
first step; each advance shows the next one; past the last step it is completed, and it may be dismissed
on the way. It owns the veil and the bubble while it shows a step, and at most one deadline, after which
the step is left by itself.

Every operation takes the reading of the clock, and answers the run, its answer, and what is to be done
outside of it, in order.

* `Run.start`, `Run.advance`, `Run.tick`, `Run.dismiss` - the moves.
-/

namespace GuidedTour

open Layout

/-- How far a run is. -/
inductive RunState where
  | notStarted
  /-- The views are attached, but no step is shown yet. -/
  | probing
  | running (index : Nat)
  | completed
  | dismissed
  deriving DecidableEq, Inhabited

/-- Whether a run is on the screen. -/
def RunState.isActive : RunState → Bool
  | .probing | .running _ => true
  | _ => false

/-- A state in words. -/
def RunState.text : RunState → String
  | .notStarted => "not_started"
  | .probing => "probing"
  | .running i => "running " ++ toString i
  | .completed => "completed"
  | .dismissed => "dismissed"

/-- What asks a run to go on: a key or click on the background, the deadline, or a direct call. -/
inductive Trigger where
  | tap
  | timer
  | explicit
  deriving DecidableEq, Inhabited

/-- What became of asking a run to go on. -/
inductive Transition where
  | ignored
  | stepped (index : Nat)
  | completed
  deriving DecidableEq, Inhabited

/-- A transition in words. -/
def Transition.text : Transition → String
  | .ignored => "ignored"
  | .stepped i => "stepped " ++ toString i
  | .completed => "completed"

/-- What a callback has to say: a text, or a warning on its way. -/
inductive Notice where
  | warning (w : Warning)
  | callback (text : String)
  deriving DecidableEq

/-- The text of a callback. -/
def Notice.text? : Notice → Option String
  | .callback text => some text
  | .warning _ => none

/-- The warning that a notice is. -/
def Notice.warning? : Notice → Option Warning
  | .warning w => some w
  | .callback _ => none

/-- Who is told once that a run came to its end, given by what it will say. -/
structure Delegate where
  notices : List Notice

/-- What a run wants to be done outside of it. -/
inductive Effect where
  | warn (w : Warning)
  /-- Remember that the walkthrough was completed. -/
  | remember (identity : String)
  /-- Call the delegate. -/
  | notify (d : Delegate)

/-- What a run owns while it shows a step. -/
structure RunViews where
  veil        : Option Overlay.Veil
  bubble      : Bubble.View
  /-- Start of a step's move that the veil has not begun to follow. -/
  holeMove    : Option Nanos := none
  lastError   : Option PlacementError := none
  /-- Where the content of the step was drawn last. -/
  contentArea : Option Rect := none

/-- A run of a walkthrough. -/
structure Run where
  steps    : List Step
  settings : Settings
  style    : BubbleStyle
  /-- Under which identity its completion is to be remembered. -/
  identity : Option String := none
  delegate : Option Delegate := none
  state    : RunState := .notStarted
  /-- When the step is left by itself. -/
  due      : Option Nanos := none
  views    : Option RunViews := none

namespace Run

/-- Whether the run is on the screen. -/
def isActive (r : Run) : Bool := r.state.isActive

/-- The number of the step that is shown. -/
def index? (r : Run) : Option Nat :=
  match r.state with
  | .running i => some i
  | _ => none

/-- The step that is shown. -/
def step? (r : Run) : Option Step := do r.steps[← r.index?]?

/-- Whether the screen is veiled. -/
def hasVeil (r : Run) : Bool := r.views.any (·.veil.isSome)

/-- Delay after which a step is left by itself. A step that needs an interaction has none. -/
def delayOf (r : Run) (step : Step) : Option Nanos :=
  if step.needsInteraction then none else step.autoAdvance <|> r.settings.automaticDelay

/-- Shows a step: its move begins, and its deadline replaces any other. -/
def showStep (r : Run) (index : Nat) (now : Nanos) : Run :=
  { r with
    state := .running index
    views := r.views.map fun v =>
      { v with
        bubble := v.bubble.beginTransition now
        holeMove := some now
        lastError := none
        contentArea := none }
    due := (r.steps[index]?.bind r.delayOf).map (now + ·) }

/-- The views of a run that begins. -/
def attach (r : Run) (now : Nanos) : RunViews :=
  { veil := r.settings.presentationMode.dimming.map fun (color, alpha) => .attach color alpha now
    bubble :=
      { style := r.style
        margin := r.settings.minBubbleHorizontalMargin
        preferredWidth := r.settings.preferredBubbleMaxWidth
        transition := r.settings.stepTransition } }

/-- Shows the first step, unless there is none or the run was started before. -/
def start (r : Run) (now : Nanos) : Run × Bool :=
  if r.state ≠ .notStarted || r.steps.isEmpty then (r, false)
  else (showStep { r with state := .probing, views := some (r.attach now) } 0 now, true)

/-- Ends the run: its views and its deadline are gone. -/
def teardown (r : Run) (state : RunState) : Run := { r with state := state, due := none, views := none }

/-- A stage of an operation: the run as it stands then, and what is done outside of it. -/
structure Stage where
  run     : Run
  effects : List Effect

/-- The stages of a completion, in order: the completion is remembered, the views and the deadline go, and
the delegate is told. -/
def completion (r : Run) : List Stage :=
  [⟨{ r with state := .completed }, (r.identity.map Effect.remember).toList⟩,
   ⟨r.teardown .completed, []⟩,
   ⟨{ r.teardown .completed with delegate := none }, (r.delegate.map Effect.notify).toList⟩]

/-- Completes the run, stage by stage. -/
def complete (r : Run) : Run × List Effect :=
  r.completion.foldl (fun (_, effects) stage => (stage.run, effects ++ stage.effects)) (r, [])

/-- Goes on to the next step, or completes the run behind the last one. Only a direct call leaves a step
that needs an interaction. An advance that is accepted drops the deadline before anything else. -/
def advance (r : Run) (trigger : Trigger) (now : Nanos) : Run × Transition × List Effect :=
  match r.index? with
  | none => (r, .ignored, [])
  | some index =>
    if trigger ≠ .explicit && (r.steps[index]?).any (·.needsInteraction) then (r, .ignored, [])
    else
      let r := { r with due := none }
      if index + 1 < r.steps.length then (r.showStep (index + 1) now, .stepped (index + 1), [])
      else
        let (r, effects) := r.complete
        (r, .completed, effects)

/-- Leaves the step when its deadline has come. -/
def tick (r : Run) (now : Nanos) : Run × Transition × List Effect :=
  match r.due with
  | some due => if due ≤ now then { r with due := none }.advance .timer now else (r, .ignored, [])
  | none => (r, .ignored, [])

/-- Ends the run on its way. It is not remembered, and nobody is told. -/
def dismiss (r : Run) : Run × Bool :=
  if r.isActive then ({ r.teardown .dismissed with delegate := none }, true) else (r, false)

end Run

end GuidedTour
