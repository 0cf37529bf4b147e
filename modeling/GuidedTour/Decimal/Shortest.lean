import GuidedTour.Decimal.Binary

/-!
# Shortest decimals

The decimal with the fewest digits that rounds back to a given binary number; among several of that
length, the one nearest to the number. The search is exact: the number is `m · 2^q`, the decimals that
read back as it fill an interval around it, and a grid of `10^k` meets that interval exactly when one
of the two grid points beside the number lies in it.

* `shortest` - digits and power of ten of the shortest decimal.
* `positional` - written without an exponent, whole numbers without a point.
* `compact` - written with a point, or with an exponent when very large or very small.
-/

namespace GuidedTour.Decimal

/-- A fraction of natural numbers with a positive denominator. -/
structure Ratio where
  num : Nat
  den : Nat

namespace Ratio

/-- `n · 2^q`. -/
def ofBinary (n : Nat) (q : Int) : Ratio :=
  if 0 ≤ q then ⟨n <<< q.toNat, 1⟩ else ⟨n, 1 <<< (-q).toNat⟩

/-- `n · 10^k`. -/
def ofDecimal (n : Nat) (k : Int) : Ratio :=
  if 0 ≤ k then ⟨n * powerOfTen k.toNat, 1⟩ else ⟨n, powerOfTen (-k).toNat⟩

/-- Exact comparison. -/
def lt (a b : Ratio) : Bool := a.num * b.den < b.num * a.den

/-- The distance between two fractions. -/
def dist (a b : Ratio) : Ratio :=
  let x := a.num * b.den
  let y := b.num * a.den
  ⟨(x - y) + (y - x), a.den * b.den⟩

/-- `⌊a / 10^k⌋`. -/
def floorAt (a : Ratio) (k : Int) : Nat :=
  if 0 ≤ k then a.num / (a.den * powerOfTen k.toNat) else a.num * powerOfTen (-k).toNat / a.den

end Ratio

/-- The reals that round to a binary number: its two ends, and whether they belong to it. -/
structure Interval where
  low    : Ratio
  high   : Ratio
  closed : Bool

/-- Whether a decimal lies in the interval. -/
def Interval.contains (i : Interval) (r : Ratio) : Bool :=
  if i.closed then !r.lt i.low && !i.high.lt r else i.low.lt r && r.lt i.high

/-- The reals that round to `m · 2^q`. Below a power of two the neighbour is half as far away. -/
def Format.interval (f : Format) (m : Nat) (q : Int) : Interval :=
  let below := if m = f.unit ∧ f.minExponent < q then 4 * m - 1 else 4 * m - 2
  { low := .ofBinary below (q - 2), high := .ofBinary (4 * m + 2) (q - 2), closed := m % 2 = 0 }

/-- The power of ten of the number's first digit, found from an estimate that is at most one too low. -/
def Ratio.magnitude (r : Ratio) : Int :=
  let e : Int := (r.num.log2 : Int) - (r.den.log2 : Int) - 1
  let guess := Int.fdiv (e * 30103) 100000
  let up := fun k : Int => if (Ratio.ofDecimal 1 (k + 1)).lt r || !r.lt (Ratio.ofDecimal 1 (k + 1)) then k + 1 else k
  up (up guess)

/-- The grid point of `10^k` that reads back as `r`, the nearer of two, if there is one. -/
def gridHit (i : Interval) (r : Ratio) (k : Int) : Option Nat :=
  let lo := r.floorAt k
  let hi := lo + 1
  let loIn := decide (0 < lo) && i.contains (.ofDecimal lo k)
  let hiIn := i.contains (.ofDecimal hi k)
  match loIn, hiIn with
  | true, true =>
    let toLo := r.dist (.ofDecimal lo k)
    let toHi := r.dist (.ofDecimal hi k)
    if toLo.lt toHi then some lo
    else if toHi.lt toLo then some hi
    else if lo % 2 = 0 then some lo else some hi
  | true, false => some lo
  | false, true => some hi
  | false, false => none

/-- Refines the grid one digit at a time until it meets the interval. -/
def shortestFrom (i : Interval) (r : Ratio) : Nat → Int → Nat × Int
  | 0, k => (r.floorAt k, k)
  | n + 1, k =>
    match gridHit i r k with
    | some d => (d, k)
    | none => shortestFrom i r n (k - 1)

/-- Moves trailing zeros of `d · 10^k` into the exponent. -/
def stripZeros : Nat → Nat × Int → Nat × Int
  | 0, p => p
  | n + 1, (d, k) => if d ≠ 0 ∧ d % 10 = 0 then stripZeros n (d / 10, k + 1) else (d, k)

/-- Digits `d` and exponent `k` of the shortest decimal `d · 10^k` of a finite nonzero magnitude. -/
def Format.shortest (f : Format) (bits : Nat) : Nat × Int :=
  let (m, q) := f.unpack bits
  let r := Ratio.ofBinary m q
  stripZeros 20 (shortestFrom (f.interval m q) r 17 r.magnitude)

/-- The decimal digits of a number. -/
def digits (n : Nat) : List Char := Nat.toDigits 10 n

/-- `d · 10^k` without an exponent; whole numbers get `tail` behind their last digit. -/
def plainDigits (d : Nat) (k : Int) (tail : String) : String :=
  let ds := digits d
  if 0 ≤ k then String.ofList (ds ++ List.replicate k.toNat '0') ++ tail
  else
    let places := (-k).toNat
    let padded := List.replicate (places + 1 - ds.length) '0' ++ ds
    let whole := padded.length - places
    String.ofList (padded.take whole) ++ "." ++ String.ofList (padded.drop whole)

/-- A binary number given by its magnitude bits and its sign. -/
structure Binary where
  format   : Format
  negative : Bool
  bits     : Nat

/-- A single-precision number. -/
def Binary.ofFloat32 (x : Float32) : Binary :=
  let b := x.toBits.toNat
  ⟨binary32, decide (0x80000000 ≤ b), b % 0x80000000⟩

/-- A double-precision number. -/
def Binary.ofFloat (x : Float) : Binary :=
  let b := x.toBits.toNat
  ⟨binary64, decide (0x8000000000000000 ≤ b), b % 0x8000000000000000⟩

/-- Whether a number whose first digit stands at `10^e` is written without an exponent. -/
def Format.isPlain (f : Format) (e : Int) : Bool :=
  if f = binary32 then decide (-6 ≤ e ∧ e ≤ 12) else decide (-5 ≤ e ∧ e ≤ 15)

namespace Binary

/-- The same number in double precision, which holds every finite number of single precision. -/
def widened (x : Binary) : Binary :=
  let (m, q) := x.format.unpack x.bits
  ⟨binary64, x.negative, binary64.bitsOfRatio (m <<< q.toNat) (1 <<< (-q).toNat)⟩

/-- Neither infinite nor a NaN. -/
def isFinite (x : Binary) : Bool := x.bits < x.format.infinityBits

/-- The sign's text. -/
def sign (x : Binary) : String := if x.negative then "-" else ""

/-- Written out in full: no exponent, and no point in a whole number. -/
def positional (x : Binary) : String :=
  if x.format.infinityBits < x.bits then "NaN"
  else if x.bits = x.format.infinityBits then x.sign ++ "inf"
  else if x.bits = 0 then x.sign ++ "0"
  else
    let (d, k) := x.format.shortest x.bits
    x.sign ++ plainDigits d k ""

/-- Written with a point, or with an exponent that always carries its sign if the number is very large
or very small. -/
def compact (x : Binary) : String :=
  if x.bits = 0 then x.sign ++ "0.0"
  else
    let (d, k) := x.format.shortest x.bits
    let ds := digits d
    let e : Int := ds.length + k - 1
    if x.format.isPlain e then x.sign ++ plainDigits d k ".0"
    else
      let mantissa := match ds with
        | [] => ""
        | [c] => String.singleton c
        | c :: rest => String.singleton c ++ "." ++ String.ofList rest
      x.sign ++ mantissa ++ (if e < 0 then "e-" else "e+") ++ toString e.natAbs

end Binary

end GuidedTour.Decimal
