import GuidedTour.Command.Arguments
import GuidedTour.Command.Failure
import GuidedTour.Decimal.Shortest
import GuidedTour.Showcase.App

/-!
# From arguments to the showcase

What the arguments of the showcase's command mean. A delay in seconds is rounded to nanoseconds, a half
going to the even neighbour.

* `DemoArguments.options` - the options that arguments ask for.
* `nanosOfSeconds` - a delay.
-/

namespace GuidedTour

open Showcase Screen

/-- Why a number of seconds is no delay. -/
inductive DelayError where
  | negative
  | tooBig
  deriving DecidableEq

/-- The wording of a refusal. -/
def DelayError.message : DelayError → String
  | .negative => "cannot convert float seconds to Duration: value is negative"
  | .tooBig => "cannot convert float seconds to Duration: value is either too big or NaN"

/-- Seconds in nanoseconds, rounded; there are fewer than `2^64` of them. -/
def nanosOfSeconds (x : Float) : Except DelayError Nanos :=
  let b := Decimal.Binary.ofFloat x
  if x < 0 then .error .negative
  else if !b.isFinite then .error .tooBig
  else
    let (m, q) := b.format.unpack b.bits
    let r := Decimal.Ratio.ofBinary m q
    if r.den * 0x10000000000000000 ≤ r.num then .error .tooBig
    else .ok (Decimal.roundHalfEven (r.num * 1000000000) r.den)

/-- The style that is asked for. -/
def StyleChoice.style : StyleChoice → BubbleStyle
  | .default => {}
  | .white => .white

/-- The presentation that is asked for. -/
def ModeChoice.mode : ModeChoice → PresentationMode
  | .dimAndHighlight => .dimAndHighlight (.rgb 0 0 0) defaultDimAlpha
  | .dim => .dim (.rgb 0 0 0) defaultDimAlpha
  | .none => .none

/-- The delay that is asked for. -/
def DemoArguments.delayNanos (a : DemoArguments) : Except Command.Failure (Option Nanos) :=
  match a.delay with
  | none => .ok none
  | some x =>
    match nanosOfSeconds x with
    | .ok n => .ok (some n)
    | .error e => .error ⟨"invalid delay: " ++ (Decimal.Binary.ofFloat x).positional, [e.message]⟩

/-- The options that arguments ask for. -/
def DemoArguments.options (a : DemoArguments) : Except Command.Failure AppOptions := do
  let delay ← a.delayNanos
  return {
    settings := { automaticDelay := delay, presentationMode := a.mode.mode }
    style := a.style.style
    force := a.force
    bubbles := a.bubbles }

end GuidedTour
