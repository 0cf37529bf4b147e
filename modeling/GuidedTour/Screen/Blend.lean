import GuidedTour.Screen.Buffer

/-!
# Mixing colors

A color laid over another with a strength from zero to one. Only colors with red, green and blue mix; any
other color is replaced once the strength reaches one half.

* `blend` - one color over another.
* `Cell.dim` - a cell darkened toward a color.
-/

namespace GuidedTour.Screen

/-- One channel of a mixture. -/
def mixChannel (base top : UInt8) (alpha : Float32) : UInt8 :=
  (base.toFloat32 * (1 - alpha) + top.toFloat32 * alpha).round.toUInt8

/-- The color `top` laid over `base`. -/
def blend (base top : Color) (alpha : Float32) : Color :=
  let alpha : Float32 := if alpha < 0 then 0 else if 1 < alpha then 1 else alpha
  match base, top with
  | .rgb r g b, .rgb r' g' b' => .rgb (mixChannel r r' alpha) (mixChannel g g' alpha) (mixChannel b b' alpha)
  | base, top => if 0.5 ≤ alpha then top else base

/-- Whether a color has red, green and blue. -/
def Color.isRgb : Color → Bool
  | .rgb _ _ _ => true
  | _ => false

/-- A cell darkened toward a color. A foreground that cannot be mixed gets the dim attribute instead. -/
def Cell.dim (color : Color) (alpha : Float32) (c : Cell) : Cell :=
  if alpha ≤ 0 then c else
    let c := { c with bg := blend c.bg color alpha }
    if c.fg.isRgb then { c with fg := blend c.fg color alpha } else { c with attrs := c.attrs.union ⟨2⟩ }

/-- A cell in a shadow: its colors are mixed with the shadow's, its symbol and attributes stay. -/
def Cell.shade (color : Color) (opacity : Float32) (c : Cell) : Cell :=
  let c := { c with bg := blend c.bg color opacity }
  if c.fg.isRgb then { c with fg := blend c.fg color opacity } else c

end GuidedTour.Screen
