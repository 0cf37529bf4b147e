import GuidedTour.Completion.Store
import GuidedTour.Host.Floating
import GuidedTour.Provider
import GuidedTour.Run.Drawing
import GuidedTour.Run.Input

/-!
# Walkthroughs and bubbles on a screen

A host stands beside the screen that it augments. It knows where the screen's views are, runs at most one
walkthrough at a time, and shows any number of floating bubbles. Every operation takes the reading of the
clock, and answers the host, its answer, and the notices that came up, in order.

* `Host.start` - starts a walkthrough unless one runs or it was completed before.
* `Host.handle`, `Host.tick`, `Host.draw` - input, time and drawing.
-/

namespace GuidedTour

open Layout Screen Completion Storage

/-- The number of a run among those that a host ever started. -/
abbrev RunId := Nat

/-- How a walkthrough is started. -/
structure StartRequest where
  /-- Takes the place of the host's own provider. -/
  provider : Option Provider := none
  settings : Settings := {}
  style    : BubbleStyle := {}
  delegate : Option Delegate := none
  /-- Whether to start a walkthrough that was completed before. -/
  force    : Bool := false

/-- A host. -/
structure Host where
  store      : Store := .memory .empty
  disk       : Disk := .fresh
  anchors    : Anchors := .empty
  provider   : Option Provider := none
  active     : Option (RunId × Run) := none
  bubbles    : List FloatingBubble := []
  runCount   : Nat := 0
  bubbleCount : Nat := 0

/-- Why a walkthrough could not even be looked for. -/
inductive StartError where
  | noProvider
  deriving DecidableEq

/-- The wording of a refusal to start. -/
def StartError.message : StartError → String
  | .noProvider =>
    "walkthrough started without a provider: pass one in the request or attach one to the host"

namespace Host

/-- Whether a walkthrough is on the screen. -/
def isActive (h : Host) : Bool := h.active.any (·.2.isActive)

/-- How many veils are attached. -/
def veilCount (h : Host) : Nat := (h.active.toList.filter (·.2.hasVeil)).length

/-- How many bubbles are shown; those that shrink do not count. -/
def visibleCount (h : Host) : Nat := (h.bubbles.filter (!·.isRemoved)).length

/-- Whether a later frame would look different. -/
def isAnimating (h : Host) (now : Nanos) : Bool :=
  h.active.any (·.2.isAnimating now) || h.bubbles.any (·.view.isAnimating now)

/-- Releases a run that has ended and bubbles that have shrunk away. -/
def reap (h : Host) (now : Nanos) : Host :=
  { h with
    active := h.active.filter (·.2.isActive)
    bubbles := h.bubbles.filter fun f => !f.isGone now }

/-- Does what a run wants to be done outside of it. -/
def apply (h : Host) : Effect → Host × List Notice
  | .warn w => (h, [.warning w])
  | .remember identity =>
    let (store, disk, warnings) := h.store.markCompleted h.disk identity true
    ({ h with store := store, disk := disk }, warnings.map .warning)
  | .notify d => (h, d.notices)

/-- Does all that a run wants, in order. -/
def applyAll (h : Host) : List Effect → Host × List Notice
  | [] => (h, [])
  | e :: rest =>
    let (h, now) := h.apply e
    let (h, later) := applyAll h rest
    (h, now ++ later)

/-- Starts a walkthrough unless one runs already, it was completed before, or it has no steps. Answers the
number of the run. -/
def startWith (h : Host) (provider : Provider) (request : StartRequest) (now : Nanos) :
    Host × Option RunId × List Notice :=
  let h := h.reap now
  if h.active.isSome then (h, none, []) else
    let (done, warnings) := if request.force then (false, []) else h.store.hasCompleted provider.identity
    let notices := warnings.map Notice.warning
    if done then (h, none, notices) else
      let run : Run :=
        { steps := provider.steps
          settings := request.settings
          style := request.style
          identity := some provider.identity
          delegate := request.delegate }
      let (run, started) := run.start now
      if started then
        ({ h with active := some (h.runCount, run), runCount := h.runCount + 1 }, some h.runCount, notices)
      else (h, none, notices)

/-- Starts a walkthrough of the request's provider, or else of the host's own. -/
def start (h : Host) (request : StartRequest) (now : Nanos) :
    Except StartError (Host × Option RunId × List Notice) :=
  match request.provider <|> h.provider with
  | some provider => .ok (h.startWith provider request now)
  | none => .error .noProvider

/-- Shows a floating bubble; answers its number. -/
def showBubble (h : Host) (step : Step) (options : BubbleOptions) (now : Nanos) : Host × BubbleId :=
  ({ h with
     bubbles := h.bubbles ++ [.shown h.bubbleCount step options now]
     bubbleCount := h.bubbleCount + 1 }, h.bubbleCount)

/-- Removes a bubble, unless it is gone. -/
def removeBubble (h : Host) (id : BubbleId) (now : Nanos) : Host :=
  { h with bubbles := h.bubbles.map fun f => if f.id = id then f.remove now else f }

/-- Whether a bubble is shown; one that shrinks is not. -/
def isVisible (h : Host) (id : BubbleId) : Bool := h.bubbles.any fun f => f.id = id && !f.isRemoved

/-- Puts back the run after an operation on it, and does what it wants. -/
def settle (h : Host) (id : RunId) (run : Run) (effects : List Effect) : Host × List Notice :=
  applyAll { h with active := some (id, run) } effects

/-- Offers an event to the walkthrough; answers whether it was taken. -/
def handle (h : Host) (e : Event) (now : Nanos) : Host × Bool × List Notice :=
  match h.active with
  | none => (h.reap now, false, [])
  | some (id, run) =>
    let (run, taken, effects) := run.handle e now
    let (h, notices) := h.settle id run effects
    (h.reap now, taken, notices)

/-- Runs the callback of a bubble whose time is up. -/
def runCallback (h : Host) (now : Nanos) (c : BubbleCallback) : Host × Notice :=
  (c.removes.foldl (fun h id => h.removeBubble id now) h, .callback c.text)

/-- Runs callbacks in order. -/
def runCallbacks (h : Host) (now : Nanos) : List BubbleCallback → Host × List Notice
  | [] => (h, [])
  | c :: rest =>
    let (h, notice) := h.runCallback now c
    let (h, notices) := runCallbacks h now rest
    (h, notice :: notices)

/-- Lets the walkthrough's deadline pass. -/
def tickRun (h : Host) (now : Nanos) : Host × List Notice :=
  match h.active with
  | none => (h, [])
  | some (id, run) =>
    let (run, _, effects) := run.tick now
    h.settle id run effects

/-- Lets deadlines pass: first the walkthrough's, then those of the bubbles. Callbacks run when all
bubbles that are due have been removed. -/
def tick (h : Host) (now : Nanos) : Host × List Notice :=
  let (h, notices) := h.tickRun now
  let expired := h.bubbles.map fun f => f.expire now
  let h := reap { h with bubbles := expired.map fun p => p.1 } now
  let (h, callbacks) := h.runCallbacks now (expired.filterMap fun p => p.2)
  (h, notices ++ callbacks)

/-- Draws bubbles one above the other. -/
def drawBubbles (area : Rect) (anchors : Anchors) (now : Nanos) :
    List FloatingBubble → Buffer → List FloatingBubble × Buffer × List Warning
  | [], b => ([], b, [])
  | f :: rest, b =>
    let (f, b, first) := f.draw area b anchors now
    let (rest, b, others) := drawBubbles area anchors now rest b
    (f :: rest, b, first ++ others)

/-- Draws the bubbles and, above them, the walkthrough. -/
def draw (h : Host) (area : Rect) (b : Buffer) (now : Nanos) : Host × Buffer × List Notice :=
  let (bubbles, b, warnings) := drawBubbles area h.anchors now h.bubbles b
  let h := { h with bubbles := bubbles }
  match h.active with
  | none => (h, b, warnings.map .warning)
  | some (id, run) =>
    let (run, b, effects) := run.draw area b h.anchors now
    let (h, notices) := h.settle id run effects
    (h, b, warnings.map .warning ++ notices)

/-- The screen goes away: the walkthrough ends unfinished, and all bubbles are gone at once. -/
def disappear (h : Host) : Host := { h with active := none, bubbles := [] }

end Host

end GuidedTour
