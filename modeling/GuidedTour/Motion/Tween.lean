import GuidedTour.Motion.Easing

/-!
# Animated values

A tween is a value on its way from one state to another, over a duration that began at some reading of the
clock. It may be given a new destination on the way, with or without a new course of time.

* `Tween.valueAt` - the value at a reading of the clock.
* `Tween.valueAt_settled` - a tween at rest stays where it is.
-/

namespace GuidedTour.Motion

/-- A value on its way to a destination. -/
structure Tween (α : Type) where
  origin   : α
  target   : α
  started  : Nanos
  duration : Nanos

namespace Tween

variable {α : Type}

/-- A tween at rest. -/
def settled (value : α) (now : Nanos) : Tween α := ⟨value, value, now, 0⟩

/-- How much of the course has passed, from zero to one. -/
def progress (t : Tween α) (now : Nanos) : Float32 :=
  if t.duration = 0 then 1 else
    let p := seconds (now - t.started) / seconds t.duration
    if p < 0 then 0 else if 1 < p then 1 else p

/-- Whether the value is still on its way. -/
def isRunning (t : Tween α) (now : Nanos) : Bool := t.progress now < 1

variable [Interpolate α]

/-- The value at a reading of the clock. -/
def valueAt (t : Tween α) (now : Nanos) : α :=
  let p := t.progress now
  if 1 ≤ p then t.target else Interpolate.between t.origin t.target (easeInOut p)

/-- Starts a new course from wherever the value is. -/
def retarget (t : Tween α) (target : α) (now started duration : Nanos) : Tween α :=
  ⟨t.valueAt now, target, started, duration⟩

/-- Changes the destination and keeps the course of time. -/
def aimAt (t : Tween α) (target : α) : Tween α := { t with target := target }

/-- A tween at rest stays where it is. -/
theorem valueAt_settled (value : α) (now later : Nanos) : (settled value now).valueAt later = value := by
  have h : (1 : Float32) ≤ 1 := by decide
  simp [valueAt, progress, settled, h]

/-- A tween whose course is over has arrived. -/
theorem valueAt_of_rest {t : Tween α} {now : Nanos} (h : t.progress now = 1) : t.valueAt now = t.target := by
  have hOver : (1 : Float32) ≤ 1 := by decide
  unfold valueAt
  rw [h]
  exact if_pos hOver

/-- Sends an optional tween to a destination: it appears there, starts a new course, or changes its aim. -/
def send (t : Option (Tween α)) (target : α) (now : Nanos) (course : Option (Nanos × Nanos)) : Tween α :=
  match t, course with
  | none, _ => settled target now
  | some t, some (started, duration) => t.retarget target now started duration
  | some t, none => t.aimAt target

theorem target_send (t : Option (Tween α)) (target : α) (now : Nanos) (course : Option (Nanos × Nanos)) :
    (send t target now course).target = target := by
  unfold send
  split <;> rfl

end Tween

end GuidedTour.Motion
