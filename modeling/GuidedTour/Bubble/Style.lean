import GuidedTour.Geometry
import GuidedTour.Screen.Style

/-!
# Bubble appearance

Colors, shadow, corners, spacing and arrow of a speech bubble, and the two presets.
-/

namespace GuidedTour

open Screen

/-- A number moved into the range from zero to one; a NaN stays what it is. -/
def clampUnit (x : Float32) : Float32 := if x < 0 then 0 else if 1 < x then 1 else x

/-- A shadow on the cells behind a bubble. -/
structure ShadowStyle where
  offset  : Offset
  color   : Color
  opacity : Float32
  deriving Inhabited

namespace ShadowStyle

/-- A faint black shadow, one cell right and down. -/
def light : ShadowStyle := ⟨⟨1, 1⟩, .rgb 0 0 0, 0.25⟩

/-- A strong black shadow, one cell right and down. -/
def dark : ShadowStyle := ⟨⟨1, 1⟩, .rgb 0 0 0, 0.6⟩

end ShadowStyle

/-- The look of a bubble. Any corner radius but zero leaves the corner cells out, and keeps the arrow that
far from the bubble's sides. -/
structure BubbleStyle where
  textColor       : Color := .rgb 0x2E 0x2E 0x2D
  backgroundColor : Color := .rgb 0xBE 0xD2 0xE5
  shadow          : Option ShadowStyle := none
  cornerRadius    : UInt16 := 1
  textInsets      : EdgeInsets := .symmetric 1 2
  /-- Rows between the highlighted area and the tip of the arrow. -/
  yOffset         : UInt16 := 1
  arrowSize       : CellSize := ⟨3, 1⟩
  deriving Inhabited

namespace BubbleStyle

/-- Dark text on a white bubble with a faint shadow. -/
def white : BubbleStyle :=
  { backgroundColor := .rgb 0xFF 0xFF 0xFF, shadow := some .light }

/-- Rows between the bubble's body and the highlighted area. -/
def highlightGap (s : BubbleStyle) : Int32 := .ofInt (s.yOffset.toNat + s.arrowSize.height.toNat)

end BubbleStyle

end GuidedTour
