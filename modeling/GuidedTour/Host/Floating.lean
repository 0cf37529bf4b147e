import GuidedTour.Bubble.View
import GuidedTour.Run.Basic

/-!
# Floating bubbles

A bubble on its own, without a veil and without a sequence. It may have a duration, after which it goes
and a callback runs; or it is removed by hand, and then no callback runs. Either way it shrinks before it
is gone.

* `FloatingBubble.remove` - begins the end.
* `FloatingBubble.expire` - the same when the time is up, with the callback.
-/

namespace GuidedTour

open Layout Screen

/-- How long a removed bubble shrinks. -/
def bubbleRemoval : Nanos := millis 300

/-- The number of a bubble among those that a host ever showed. -/
abbrev BubbleId := Nat

/-- What runs when a bubble's time is up: other bubbles are removed, then a text is reported. -/
structure BubbleCallback where
  removes : List BubbleId
  text    : String
  deriving DecidableEq

/-- How a floating bubble is shown. -/
structure BubbleOptions where
  style          : BubbleStyle := {}
  /-- Without a duration the bubble stays until it is removed. -/
  duration       : Option Nanos := none
  margin         : UInt16 := ({} : Settings).minBubbleHorizontalMargin
  preferredWidth : Option UInt16 := ({} : Settings).preferredBubbleMaxWidth
  onFinished     : Option BubbleCallback := none

/-- A floating bubble. -/
structure FloatingBubble where
  id         : BubbleId
  step       : Step
  view       : Bubble.View
  expiresAt  : Option Nanos
  onFinished : Option BubbleCallback
  /-- Once removed: when it will have shrunk away. -/
  goneAt     : Option Nanos := none
  lastError  : Option PlacementError := none

namespace FloatingBubble

/-- A bubble that is shown from now on. -/
def shown (id : BubbleId) (step : Step) (options : BubbleOptions) (now : Nanos) : FloatingBubble :=
  { id := id
    step := step
    view :=
      { style := options.style
        margin := options.margin
        preferredWidth := options.preferredWidth
        transition := 0 }
    expiresAt := options.duration.map (now + ·)
    onFinished := options.onFinished }

/-- Whether the bubble was removed; it may still shrink. -/
def isRemoved (f : FloatingBubble) : Bool := f.goneAt.isSome

/-- Whether the bubble has shrunk away. -/
def isGone (f : FloatingBubble) (now : Nanos) : Bool := f.goneAt.any (· ≤ now)

/-- Begins to shrink the bubble, once. -/
def remove (f : FloatingBubble) (now : Nanos) : FloatingBubble :=
  if f.isRemoved then f
  else { f with view := f.view.beginCollapse now bubbleRemoval, goneAt := some (now + bubbleRemoval) }

/-- Whether the bubble's time is up. -/
def isDue (f : FloatingBubble) (now : Nanos) : Bool := !f.isRemoved && f.expiresAt.any (· ≤ now)

/-- Removes the bubble when its time is up, and hands out its callback. -/
def expire (f : FloatingBubble) (now : Nanos) : FloatingBubble × Option BubbleCallback :=
  if f.isDue now then ({ f.remove now with onFinished := none }, f.onFinished) else (f, none)

/-- Places the bubble, unless it shrinks; a failure is reported once as long as it stays the same. -/
def place (f : FloatingBubble) (ctx : Context) (now : Nanos) : FloatingBubble × List Warning :=
  if f.isRemoved then (f, []) else
    let (view, placed) := f.view.layout f.step ctx now
    match placed with
    | .ok _ => ({ f with view := view, lastError := none }, [])
    | .error e =>
      if f.lastError = some e then ({ f with view := view }, [])
      else ({ f with view := view, lastError := some e }, [.unplacedBubble])

/-- Draws the bubble unless it is gone. -/
def draw (f : FloatingBubble) (area : Rect) (b : Buffer) (anchors : Anchors) (now : Nanos) :
    FloatingBubble × Buffer × List Warning :=
  if f.isGone now then (f, b, []) else
    let (f, warnings) := f.place (.of area anchors) now
    let (view, b) := f.view.draw f.step.content area b now
    ({ f with view := view }, b, warnings)

end FloatingBubble

end GuidedTour
