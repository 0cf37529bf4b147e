import GuidedTour.Host.Basic
import GuidedTour.Showcase.Screen

/-!
# The bubble showcase

Five bubbles that appear one after the other. The second and the third stay; the last one takes them along
when its time is up.

* `BubbleShow.tick` - shows every bubble whose time has come.
-/

namespace GuidedTour.Showcase

open GuidedTour.Screen Layout

/-- Seconds as nanoseconds. -/
def secs (n : Nat) : Nanos := millis (1000 * n)

/-- When each bubble appears, counted from the start. -/
def stageTimes : List Nanos := [secs 0, secs 2, secs 4, secs 5, secs 6]

/-- A showcase that plays. -/
structure BubbleShow where
  started : Nanos
  /-- The number of the next bubble. -/
  next    : Nat := 0
  /-- The bubbles that stay until the last one goes. -/
  kept    : List BubbleId := []

/-- A bubble of the showcase: its step, how it is shown, and whether it stays. -/
structure Stage where
  step    : Step
  options : BubbleOptions
  keep    : Bool := false

/-- The bubbles of the showcase, given those that stay. -/
def stages (kept : List BubbleId) : List Stage :=
  [{ step := .below (.view (buttonView 0)) (.plain "Bubbles can be shown on their own, without a walkthrough.")
     options := { duration := some (secs 10) } },
   { step := .centered (.plain "They stay until removed when no duration is given.") ⟨-10, 4⟩
     options :=
       { style :=
           { textColor := .white, backgroundColor := .rgb 0xFF 0x95 0x00, shadow := some .dark }
         preferredWidth := some 30
         margin := 4 }
     keep := true },
   { step := .withLayout (.plain "Or placed with layout constraints.") fun _ =>
       [.equal .centerX (.container .centerX) 0, .equal .bottom (.container .bottom) (-4)]
     options := { style := { textColor := .black, backgroundColor := .rgb 0x5A 0xC8 0xFA } }
     keep := true },
   { step := .above (.view (buttonView 1)) (.plain "This one leaves after three seconds.")
     options := { duration := some (secs 3), onFinished := some ⟨[], "A timed bubble finished."⟩ } },
   { step := .centered (.plain "When this one goes, it takes the others along.") ⟨0, -6⟩
     options := { duration := some (secs 6), onFinished := some ⟨kept, "Bubble showcase finished."⟩ } }]

namespace BubbleShow

/-- Whether all bubbles were shown. -/
def isFinished (s : BubbleShow) : Bool := stageTimes.length ≤ s.next

/-- Shows the next bubble. -/
def showNext (s : BubbleShow) (h : Host) (now : Nanos) : BubbleShow × Host :=
  match (stages s.kept)[s.next]? with
  | none => (s, h)
  | some stage =>
    let (h, id) := h.showBubble stage.step stage.options now
    ({ s with next := s.next + 1, kept := if stage.keep then s.kept ++ [id] else s.kept }, h)

/-- Shows bubbles while their times have come. -/
def showDue (h : Host) (now : Nanos) (s : BubbleShow) : List Nanos → BubbleShow × Host
  | [] => (s, h)
  | time :: later =>
    if now < s.started + time then (s, h) else
      let (s, h) := s.showNext h now
      showDue h now s later

/-- Shows every bubble whose time has come. -/
def tick (s : BubbleShow) (h : Host) (now : Nanos) : BubbleShow × Host :=
  showDue h now s (stageTimes.drop s.next)

end BubbleShow

end GuidedTour.Showcase
