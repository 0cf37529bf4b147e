import GuidedTour.Run.Basic

/-!
# Input to a run

A run takes input away from the screen under it. The content of the step comes first; what it leaves is a
tap on the background, an escape, or nothing.

* `Run.handle` - offers an event to a run; answers whether it was taken.
-/

namespace GuidedTour

namespace Run

/-- Whether a key counts as a tap on the background. -/
def isTapKey : Key → Bool
  | .enter | .right | .char ' ' | .char 'n' => true
  | _ => false

/-- Advances and forgets what became of it. -/
def advanced (r : Run) (trigger : Trigger) (now : Nanos) : Run × List Effect :=
  let (r, _, effects) := r.advance trigger now
  (r, effects)

/-- The answer of the step's content to a key. -/
def keyAction (r : Run) (e : KeyEvent) : ContentAction :=
  match r.step? with
  | some step => step.content.onKey e
  | none => .ignored

/-- What the step's content is told about a mouse event at a position; it is asked only where a content was drawn. -/
def contentPlace (views : RunViews) (p : Position) : Option ContentPlace :=
  (views.bubble.contentArea.filter (·.contains p)).map (⟨·, views.contentArea⟩)

/-- The answer of the step's content to a mouse event over the bubble. -/
def mouseAction (r : Run) (views : RunViews) (e : MouseEvent) : ContentAction :=
  match contentPlace views e.position, r.step? with
  | some place, some step => step.content.onMouse e place
  | _, _ => .ignored

/-- Offers a key that went down. Behind a veil every key is taken. -/
def handleKey (r : Run) (e : KeyEvent) (now : Nanos) : Run × Bool × List Effect :=
  match r.keyAction e with
  | .stepWalkthrough =>
    let (r, effects) := r.advanced .explicit now
    (r, true, effects)
  | .consumed => (r, true, [])
  | .ignored =>
    if !r.hasVeil then (r, false, [])
    else if e.key = .esc ∧ r.settings.dismissOnEscape then (r.dismiss.1, true, [])
    else if isTapKey e.key then
      let (r, effects) := r.advanced .tap now
      (r, true, effects)
    else (r, true, [])

/-- Offers a mouse event. Over the bubble and behind a veil every one is taken. -/
def handleMouse (r : Run) (e : MouseEvent) (now : Nanos) : Run × Bool × List Effect :=
  match r.views with
  | none => (r, false, [])
  | some views =>
    if views.bubble.contains e.position then
      let trigger : Option Trigger := match r.mouseAction views e with
        | .stepWalkthrough => some .explicit
        | .ignored => if e.kind = .down .left && views.veil.isNone then some .tap else none
        | .consumed => none
      match trigger with
      | some t =>
        let (r, effects) := r.advanced t now
        (r, true, effects)
      | none => (r, true, [])
    else
      match views.veil with
      | none => (r, false, [])
      | some veil =>
        if veil.isTapped e then
          let (r, effects) := r.advanced .tap now
          (r, true, effects)
        else (r, true, [])

/-- Offers an event; answers whether it was taken. -/
def handle (r : Run) (e : Event) (now : Nanos) : Run × Bool × List Effect :=
  if !r.isActive then (r, false, []) else
    match e with
    | .key e => if e.kind = .press then r.handleKey e now else (r, false, [])
    | .mouse e => r.handleMouse e now
    | .other => (r, false, [])

end Run

end GuidedTour
