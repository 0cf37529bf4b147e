import GuidedTour.Input
import GuidedTour.Layout.Anchors
import GuidedTour.Screen.Division
import GuidedTour.Screen.Frame
import GuidedTour.Screen.Paragraph

/-!
# The sample screen

A title, a slider, four buttons, a line of status and a line of hints, for walkthroughs to point at.

* `SampleScreen.onKey`, `SampleScreen.onMouse` - input.
* `SampleScreen.draw` - draws the screen and records where its views are.
-/

namespace GuidedTour.Showcase

open GuidedTour.Screen Layout

/-- The view of the title. -/
def titleView : String := "title"

/-- The view of the slider. -/
def sliderView : String := "slider"

/-- The view of a button; buttons are counted from zero. -/
def buttonView (i : Nat) : String := "button" ++ toString (i + 1)

/-- The color of what matters. -/
def accent : Color := .rgb 0x4A 0x90 0xE2

/-- The color of what does not. -/
def muted : Color := .rgb 0x8A 0x8F 0x98

/-- What the screen asks its application to do. -/
inductive ScreenAction where
  | none
  | quit
  | restart
  | showBubbles
  | forgetCompletion
  deriving DecidableEq, Inhabited

/-- An action in a word. -/
def ScreenAction.text : ScreenAction → String
  | .none => "none"
  | .quit => "quit"
  | .restart => "restart"
  | .showBubbles => "bubbles"
  | .forgetCompletion => "forget"

/-- The sample screen. The slider's level is a percentage. -/
structure SampleScreen where
  title   : String
  level   : Nat := 50
  pressed : Option Nat := none
  status  : String := ""
  slider  : Rect := ⟨0, 0, 0, 0⟩
  buttons : List Rect := []

namespace SampleScreen

/-- Presses a button. -/
def press (s : SampleScreen) (i : Nat) : SampleScreen :=
  { s with
    pressed := some i
    status :=
      if i = 0 then "Button 1 pressed ... nothing happens."
      else "Button " ++ toString (i + 1) ++ " pressed." }

/-- The action that a key asks for. -/
def actionOf : Key → ScreenAction
  | .char 'q' | .esc => .quit
  | .char 'w' => .restart
  | .char 'b' => .showBubbles
  | .char 'r' => .forgetCompletion
  | _ => .none

/-- Moves the slider or presses a button. -/
def operate (s : SampleScreen) : Key → SampleScreen
  | .left => { s with level := s.level - 5 }
  | .right => { s with level := min (s.level + 5) 100 }
  | .char '1' => s.press 0
  | .char '2' => s.press 1
  | .char '3' => s.press 2
  | .char '4' => s.press 3
  | _ => s

/-- A key. -/
def onKey (s : SampleScreen) (k : Key) : SampleScreen × ScreenAction := (s.operate k, actionOf k)

/-- The slider's level when its track is touched at a column. -/
def levelAt (slider : Rect) (column : Nat) : Nat :=
  min ((column - slider.left) * 100 / max (slider.width.toNat - 1) 1) 100

/-- A mouse event: the left button sets the slider, also when it is dragged, and presses buttons. -/
def onMouse (s : SampleScreen) (e : MouseEvent) : SampleScreen :=
  if e.kind ≠ .down .left ∧ e.kind ≠ .drag .left then s
  else if s.slider.contains e.position then { s with level := levelAt s.slider e.position.x.toNat }
  else if e.kind = .down .left then
    match s.buttons.findIdx? (·.contains e.position) with
    | some i => s.press i
    | none => s
  else s

/-- Draws the slider, unless there is no room for it. -/
def drawSlider (b : Buffer) (area : Rect) (level : Nat) : Buffer :=
  if area.width < 3 then b else
    let track := area.width.toNat - 1
    let knob := track * level / 100
    let line := fun (n : Nat) (c : Char) => String.ofList (List.replicate n c)
    Paragraph.drawUnwrapped b (.of area.left area.top area.width.toNat (min area.height.toNat 1)) {} .left
      [[⟨line knob '━', { fg := some accent }⟩,
        ⟨"●", { fg := some .white, attrs := .bold }⟩,
        ⟨line (track - knob) '─', { fg := some muted }⟩]]

/-- Draws a framed text. -/
def drawFramed (b : Buffer) (area : Rect) (frame base : Style) (line : Line) : Buffer :=
  let b := b.setStyle area base
  let b := drawFrame b area frame
  Paragraph.drawUnwrapped b (inside (area.intersection b.area)) base .center [line]

/-- Draws a button. -/
def drawButton (b : Buffer) (area : Rect) (i : Nat) (pressed : Bool) : Buffer :=
  drawFramed b area { fg := some (if pressed then accent else muted) }
    { attrs := if pressed then .bold else .none } [⟨"Button " ++ toString (i + 1), {}⟩]

/-- Where the screen's parts are. -/
structure Arrangement where
  title   : Rect
  slider  : Rect
  buttons : List Rect
  status  : Rect
  hints   : Rect

/-- Arranges the screen's parts in an area. -/
def arrange (title : String) (area : Rect) : Arrangement :=
  let rows := rowsOf area [3, 3, area.height.toNat - 8, 1, 1]
  let row := fun i => rows.getD i area
  let track := row 1
  let lanes := middleRowsOf (row 2) [3, 1, 3]
  let upper := spacedColumnsOf (lanes.getD 0 area) 16
  let lower := spacedColumnsOf (lanes.getD 2 area) 16
  { title := middleColumnOf (row 0) (Text.width title + 4)
    slider := middleColumnOf (.of track.left (track.top + 1) track.width.toNat (min track.height.toNat 1)) 40
    buttons := [upper.1, upper.2, lower.1, lower.2]
    status := row 3
    hints := row 4 }

/-- Records where the screen's views are. -/
def recordViews (anchors : Anchors) (a : Arrangement) : Anchors :=
  a.buttons.zipIdx.foldl (fun anchors (r, i) => anchors.record (buttonView i) r)
    ((anchors.record titleView a.title).record sliderView a.slider)

/-- The keys that the screen understands. -/
def hints : String := "←/→ slider · 1-4 buttons · w walkthrough · b bubbles · r reset · q quit"

/-- Draws the screen and records where its views are. -/
def draw (s : SampleScreen) (area : Rect) (b : Buffer) (anchors : Anchors) : SampleScreen × Buffer × Anchors :=
  let a := arrange s.title area
  let b := drawFramed b a.title { fg := some muted } {} [⟨s.title, { fg := some accent, attrs := .bold }⟩]
  let b := drawSlider b a.slider s.level
  let b := a.buttons.zipIdx.foldl (fun b (r, i) => drawButton b r i (s.pressed = some i)) b
  let b := Paragraph.drawUnwrapped b a.status { fg := some accent } .center (linesOf s.status)
  let b := Paragraph.drawUnwrapped b a.hints { fg := some muted } .center (linesOf hints)
  ({ s with slider := a.slider, buttons := a.buttons }, b, recordViews anchors a)

end SampleScreen

end GuidedTour.Showcase
