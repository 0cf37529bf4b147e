import GuidedTour.Bubble.Style
import GuidedTour.Input
import GuidedTour.Screen.Paragraph

/-!
# What a bubble shows

Plain text, rich text, or a view of its own that may answer to input.

* `Content.measure` - the size of a content at a width.
* `Content.draw` - draws a content.
-/

namespace GuidedTour

open Screen

/-- What a view inside a bubble did with an input. -/
inductive ContentAction where
  /-- Not handled; the input is treated as usual. -/
  | ignored
  /-- Handled; nothing else happens. -/
  | consumed
  /-- The walkthrough shall move on. -/
  | stepWalkthrough
  deriving DecidableEq, Inhabited

/-- What a view inside a bubble is told about a mouse event on it, and remembers itself. -/
structure ContentPlace where
  /-- Where the bubble last drew a content, whichever step that belonged to. -/
  area : Rect
  /-- Where this view was drawn last, if it was drawn at all. -/
  own  : Option Rect
  deriving DecidableEq

/-- A view inside a bubble. -/
structure CustomContent where
  /-- Its size when at most this many columns are available. -/
  preferredSize : UInt16 → CellSize
  draw : Rect → BubbleStyle → Buffer → Buffer
  onKey : KeyEvent → ContentAction := fun _ => .ignored
  onMouse : MouseEvent → ContentPlace → ContentAction := fun _ _ => .ignored

/-- What a bubble shows. -/
inductive Content where
  | plain (text : String)
  | rich (lines : List Line)
  | custom (view : CustomContent)

instance : Inhabited Content := ⟨.plain ""⟩

namespace Content

/-- Whether the content is a view of its own. -/
def isCustom : Content → Bool
  | .custom _ => true
  | _ => false

/-- The size of lines that are wrapped to at most `maxWidth` columns. -/
def measureLines (lines : List Line) (maxWidth : UInt16) : CellSize :=
  let width := min (min (Paragraph.naturalWidth lines) 65535) maxWidth.toNat
  if width = 0 then ⟨0, 0⟩
  else ⟨.ofNat width, saturate16 (Paragraph.wrap width lines).length⟩

/-- The size of a content that is given at most `maxWidth` columns. -/
def measure (c : Content) (maxWidth : UInt16) : CellSize :=
  if maxWidth = 0 then ⟨0, 0⟩ else
    match c with
    | .plain text => measureLines (linesOf text) maxWidth
    | .rich lines => measureLines lines maxWidth
    | .custom view =>
      let size := view.preferredSize maxWidth
      ⟨min size.width maxWidth, size.height⟩

/-- Draws a content into a rectangle. -/
def draw (c : Content) (area : Rect) (style : BubbleStyle) (b : Buffer) : Buffer :=
  if area.isEmpty then b else
    let base : Style := { fg := some style.textColor, bg := some style.backgroundColor }
    match c with
    | .plain text => Paragraph.draw b area base (linesOf text)
    | .rich lines => Paragraph.draw b area base lines
    | .custom view => view.draw area style b

/-- Offers a key to the content. -/
def onKey : Content → KeyEvent → ContentAction
  | .custom view, e => view.onKey e
  | _, _ => .ignored

/-- Offers a mouse event to the content. -/
def onMouse : Content → MouseEvent → ContentPlace → ContentAction
  | .custom view, e, place => view.onMouse e place
  | _, _, _ => .ignored

end Content

end GuidedTour
