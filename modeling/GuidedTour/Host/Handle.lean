import GuidedTour.Host.Basic

/-!
# Handles to a run

A handle names a run without keeping it alive: once the host has released the run, the handle finds
nothing. While a run tells its delegate that it is completed, it is busy: what the delegate then asks of
it is refused with a warning.

* `Host.reach` - what a handle finds.
* `Host.stepThrough`, `Host.dismissThrough` - the two calls through a handle.
-/

namespace GuidedTour

/-- What a handle finds. -/
inductive Reach where
  | gone
  | busy
  | found (r : Run)

namespace Reach

/-- How far the run is, if that can be told. -/
def state? : Reach → Option RunState
  | .found r => some r.state
  | _ => none

/-- Whether the run is known to be on the screen. -/
def isActive (r : Reach) : Bool := r.state?.any (·.isActive)

/-- What is reported when a call is refused. -/
def refusal : Reach → List Notice
  | .busy => [.warning .busyRun]
  | _ => []

end Reach

namespace Host

/-- What the handle of a run finds. -/
def reach (h : Host) (id : RunId) : Reach :=
  match h.active with
  | some (active, run) => if active = id then .found run else .gone
  | none => .gone

/-- Advances a run through what its handle finds, also past a step that needs an interaction. -/
def stepThrough (h : Host) (id : RunId) (reach : Reach) (now : Nanos) : Host × Transition × List Notice :=
  match reach with
  | .found run =>
    let (run, transition, effects) := run.advance .explicit now
    let (h, notices) := h.settle id run effects
    (h, transition, notices)
  | other => (h, .ignored, other.refusal)

/-- Ends a run through what its handle finds. -/
def dismissThrough (h : Host) (id : RunId) (reach : Reach) : Host × Bool × List Notice :=
  match reach with
  | .found run =>
    let (run, dismissed) := run.dismiss
    ({ h with active := some (id, run) }, dismissed, [])
  | other => (h, false, other.refusal)

end Host

end GuidedTour
