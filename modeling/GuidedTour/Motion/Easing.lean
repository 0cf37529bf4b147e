import GuidedTour.Geometry
import GuidedTour.Settings

/-!
# Easing and interpolation

Values that move from one state to another: the eased course of time, and the interpolation of
coordinates, sizes and bounds. Coordinates are computed in double precision and rounded, halves away from
zero.
-/

namespace GuidedTour.Motion

/-- Cubic ease-in-out from zero to one. -/
def easeInOut (t : Float32) : Float32 :=
  let t : Float32 := if t < 0 then 0 else if 1 < t then 1 else t
  if t < 0.5 then 4 * t * t * t
  else
    let u := -2 * t + 2
    1 - u * u * u / 2

/-- A coordinate between two others. -/
def interpolateInt (a b : Int32) (t : Float32) : Int32 :=
  let x := Float.ofInt a.toInt
  let y := Float.ofInt b.toInt
  (x + (y - x) * t.toFloat).round.toInt32

/-- A size between two others. -/
def interpolateSize (a b : UInt16) (t : Float32) : UInt16 :=
  saturate16 (interpolateInt (.ofInt a.toNat) (.ofInt b.toNat) t).toInt.toNat

/-- Values with states in between. -/
class Interpolate (α : Type) where
  between : α → α → Float32 → α

instance : Interpolate Bounds where
  between a b t :=
    { x := interpolateInt a.x b.x t
      y := interpolateInt a.y b.y t
      width := interpolateSize a.width b.width t
      height := interpolateSize a.height b.height t }

/-- A span of time in seconds, in single precision: whole seconds and the rest are converted apart. -/
def seconds (n : Nanos) : Float32 :=
  (UInt64.ofNat (n / 1000000000)).toFloat32 + (UInt64.ofNat (n % 1000000000)).toFloat32 / 1000000000

end GuidedTour.Motion
