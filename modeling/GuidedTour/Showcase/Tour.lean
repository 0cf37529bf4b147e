import GuidedTour.Provider
import GuidedTour.Screen.Division
import GuidedTour.Showcase.Screen

/-!
# The built-in walkthrough

Seven steps over the sample screen. One of them shows a view of its own, with stripes and a button, and is
left only through that view.

* `builtInTour` - the walkthrough.
* `stripes` - the view.
-/

namespace GuidedTour.Showcase

open GuidedTour.Screen Layout

/-- The colors of the stripes. -/
def stripeColors : List Color := [.rgb 0xFF 0xCC 0x00, .rgb 0xFF 0x95 0x00, .rgb 0xFF 0x3B 0x30]

/-- The text above the stripes. -/
def stripesLabel : List Line :=
  linesOf "You can even put a custom view in a bubble like this. Press Enter or click the button to go on."

/-- The button below the stripes. -/
def stripesButton : String := "[ Got it ]"

/-- How many rows the text above the stripes needs. -/
def labelHeight (width : UInt16) : UInt16 := saturate16 (Paragraph.wrap width.toNat stripesLabel).length

/-- Where the parts of the stripes' view are. -/
structure StripesArrangement where
  label   : Rect
  stripes : List Rect
  button  : Rect

/-- Arranges the parts in an area: text, stripes, a free row, the button. -/
def arrangeStripes (area : Rect) : StripesArrangement :=
  let rows := rowsOf area [(labelHeight area.width).toNat, 1, 1, 1]
  let row := fun i => rows.getD i area
  { label := row 0
    stripes := columnsOf (row 1) stripeColors.length
    button := middleColumnOf (row 3) stripesButton.length }

/-- Draws the view. -/
def drawStripes (area : Rect) (style : BubbleStyle) (b : Buffer) : Buffer :=
  let a := arrangeStripes area
  let b := Paragraph.draw b a.label { fg := some style.textColor } stripesLabel
  let b := (a.stripes.zip stripeColors).foldl (fun b (r, c) => b.setStyle r { bg := some c }) b
  Paragraph.drawUnwrapped b a.button
    { fg := some style.backgroundColor, bg := some style.textColor, attrs := .bold } .left
    (linesOf stripesButton)

/-- A view with stripes. Enter or a click on its button goes on; other mouse events stay in the view. -/
def stripes : CustomContent :=
  { preferredSize := fun maxWidth =>
      let width := min maxWidth 36
      ⟨width, saturate16 ((labelHeight width).toNat + 3)⟩
    draw := drawStripes
    onKey := fun e => if e.key = .enter then .stepWalkthrough else .ignored
    onMouse := fun e place =>
      if e.kind = .down .left && place.own.any fun area => (arrangeStripes area).button.contains e.position then
        .stepWalkthrough
      else .consumed }

/-- The constraints of the first step: centred, a third of the way down. -/
def welcomeConstraints (ctx : Context) : List Constraint :=
  [.equal .centerX (.container .centerX) 0,
   .equal .top (.container .top) (.ofInt (ctx.container.height.toNat / 3 : Nat))]

/-- The steps of the built-in walkthrough. -/
def builtInSteps : List Step :=
  [.withLayout
     (.plain "This is a demo of Lumen. Use it to introduce your app to new users or highlight new features.")
     welcomeConstraints,
   .below (.view sliderView)
     (.plain ("It can be configured to progress automatically and/or require a key press or click to move to " ++
       "the next element. This is by the way a slider.")),
   .below (.view (buttonView 0)) (.plain "If you press this button ... nothing happens."),
   .above (.view (buttonView 1))
     (.rich [[⟨"You can also use rich text. ", {}⟩, ⟨"For example some bold text.", { attrs := .bold }⟩]]),
   { Step.below (.view (buttonView 2)) (.custom stripes) with needsInteraction := true },
   .above (.view (buttonView 3))
     (.plain "This is the fourth and last button on this screen, and also the end of the onboarding."),
   .centered
     (.plain ("For more advanced usage scenarios, you can add a delegate to take action on walkthrough " ++
       "completion.\nThanks for your attention!"))
     ⟨0, -4⟩]

/-- The built-in walkthrough. -/
def builtInTour : Provider := ⟨shortName "DemoTour", builtInSteps⟩

end GuidedTour.Showcase
