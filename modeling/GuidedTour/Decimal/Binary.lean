/-!
# Binary floating-point formats

A format is given by its precision and its range of exponents. `Format.bitsOfRatio` rounds an exact
quotient of natural numbers to the nearest number of the format, ties to even, and answers the bit
pattern of its magnitude; `Format.bitsOfDecimal` does the same for a decimal `m · 10^e`. All work is
exact natural-number arithmetic, so there is exactly one rounding.

* `roundHalfEven_of_dvd` - an exact quotient is not rounded.
* `Format.unpack_bounds` - a mantissa read back from a bit pattern fits the precision.
-/

namespace GuidedTour.Decimal

/-- `num / den` rounded to the nearest natural number, a half going to the even neighbour. -/
def roundHalfEven (num den : Nat) : Nat :=
  let q := num / den
  let r := num % den
  if 2 * r < den then q
  else if den < 2 * r then q + 1
  else if q % 2 = 0 then q else q + 1

/-- An exact quotient is not rounded. -/
theorem roundHalfEven_of_dvd {num den : Nat} (hden : 0 < den) (h : den ∣ num) :
    roundHalfEven num den = num / den := by
  simp [roundHalfEven, Nat.mod_eq_zero_of_dvd h, hden]

/-- `10^k`. -/
def powerOfTen (k : Nat) : Nat := Nat.pow 10 k

/-- A binary interchange format: numbers `m · 2^q` with `m < 2^precision` and
`minExponent ≤ q ≤ maxExponent`. -/
structure Format where
  precision   : Nat
  minExponent : Int
  maxExponent : Int
  deriving Repr, DecidableEq

/-- Single precision. -/
def binary32 : Format := ⟨24, -149, 104⟩

/-- Double precision. -/
def binary64 : Format := ⟨53, -1074, 971⟩

namespace Format

/-- The least mantissa of full precision. -/
def unit (f : Format) : Nat := 1 <<< (f.precision - 1)

/-- The least mantissa of full precision is positive. -/
theorem unit_pos (f : Format) : 0 < f.unit := by
  rw [unit, Nat.one_shiftLeft]
  exact Nat.two_pow_pos _

/-- The pattern of positive infinity: one past the greatest finite magnitude. -/
def infinityBits (f : Format) : Nat :=
  (f.maxExponent - f.minExponent + 2).toNat * f.unit

/-- The exponent `q` at which `num / den` has a mantissa of full precision, or the least exponent of
the format for smaller quotients. -/
def exponentOf (f : Format) (num den : Nat) : Int :=
  let e : Int := (num.log2 : Int) - (den.log2 : Int)
  let scaled := if 0 ≤ e then decide (num < den <<< e.toNat) else decide (num <<< (-e).toNat < den)
  let top := if scaled then e - 1 else e
  max (top - (f.precision - 1 : Nat)) f.minExponent

/-- The magnitude bits of the number nearest to `num / den`; infinity when it is out of range. -/
def bitsOfRatio (f : Format) (num den : Nat) : Nat :=
  if num = 0 then 0 else
    let q := f.exponentOf num den
    let m := if 0 ≤ q then roundHalfEven num (den <<< q.toNat) else roundHalfEven (num <<< (-q).toNat) den
    min ((q - f.minExponent).toNat * f.unit + m) f.infinityBits

/-- The magnitude bits of the number nearest to `m · 10^e`. Exponents far outside the format's range
are settled without building the power of ten. -/
def bitsOfDecimal (f : Format) (m : Nat) (e : Int) : Nat :=
  if m = 0 then 0 else
    let digits : Int := m.log2 / 3 + 1
    if e > 400 then f.infinityBits
    else if e + digits < -400 then 0
    else if 0 ≤ e then f.bitsOfRatio (m * powerOfTen e.toNat) 1
    else f.bitsOfRatio m (powerOfTen (-e).toNat)

/-- Mantissa and exponent of a finite magnitude pattern: the number is `m · 2^q`. -/
def unpack (f : Format) (bits : Nat) : Nat × Int :=
  let field := bits / f.unit
  if field = 0 then (bits, f.minExponent)
  else (bits % f.unit + f.unit, f.minExponent + (field - 1 : Nat))

/-- A mantissa read back from a bit pattern fits the precision. -/
theorem unpack_bounds (f : Format) (bits : Nat) :
    (f.unpack bits).1 < 2 * f.unit := by
  have hpos := f.unit_pos
  by_cases h : bits / f.unit = 0
  · have := Nat.div_eq_zero_iff.mp h
    simp only [unpack, h, if_true]
    omega
  · have := Nat.mod_lt bits hpos
    simp only [unpack, h, if_false]
    omega

end Format

/-- The double nearest to `±m · 10^e`. -/
def toFloat (negative : Bool) (m : Nat) (e : Int) : Float :=
  Float.ofBits (UInt64.ofNat (binary64.bitsOfDecimal m e + if negative then 0x8000000000000000 else 0))

/-- The single-precision number nearest to a double. What is too great for it becomes infinite. -/
def toSingle (x : Float) : Float32 :=
  let bits := x.toBits.toNat
  let magnitude := bits % 0x8000000000000000
  if binary64.infinityBits < magnitude then 0.0 / 0.0
  else
    let (m, q) := binary64.unpack magnitude
    let nearest := binary32.bitsOfRatio (m <<< q.toNat) (1 <<< (-q).toNat)
    Float32.ofBits (UInt32.ofNat (nearest + if 0x8000000000000000 ≤ bits then 0x80000000 else 0))

end GuidedTour.Decimal
