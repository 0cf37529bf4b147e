import GuidedTour.Geometry

/-!
# Registered views

The frames of the views that a screen has drawn, in the order in which they were first recorded. A step
that points at a view is placed against the frame recorded last.

* `Anchors.resolve_record_self` - a recorded frame is found again.
-/

namespace GuidedTour.Layout

/-- The frames of the views on screen, each view once, in the order of their first recording. -/
structure Anchors where
  frames : List (String × Rect)
  deriving Inhabited

namespace Anchors

/-- No view is registered. -/
def empty : Anchors := ⟨[]⟩

/-- The frame of a view. -/
def resolve (a : Anchors) (id : String) : Option Rect := a.frames.lookup id

/-- Replaces the frame of a view in place, or adds it at the end. -/
def put (id : String) (frame : Rect) : List (String × Rect) → List (String × Rect)
  | [] => [(id, frame)]
  | (k, r) :: rest => if k == id then (id, frame) :: rest else (k, r) :: put id frame rest

/-- Records the frame of a view; a view that is known keeps its place. -/
def record (a : Anchors) (id : String) (frame : Rect) : Anchors := ⟨put id frame a.frames⟩

/-- Forgets a view. -/
def remove (a : Anchors) (id : String) : Anchors := ⟨a.frames.filter fun (k, _) => k != id⟩

/-- How many views are registered. -/
def size (a : Anchors) : Nat := a.frames.length

/-- A recorded frame is found again. -/
theorem resolve_record_self (a : Anchors) (id : String) (frame : Rect) :
    (a.record id frame).resolve id = some frame := by
  obtain ⟨frames⟩ := a
  simp only [record, resolve]
  induction frames with
  | nil => simp [put]
  | cons head rest ih =>
    obtain ⟨k, r⟩ := head
    by_cases h : k = id
    · simp [put, h]
    · have hne : (id == k) = false := by simpa using fun e => h e.symm
      simpa [put, h, List.lookup_cons, hne] using ih

end Anchors

end GuidedTour.Layout
