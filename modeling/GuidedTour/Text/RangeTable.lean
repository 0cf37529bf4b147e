/-!
# Tables of code point ranges

A property of characters is kept as a sorted table of closed ranges, searched by bisection.
-/

namespace GuidedTour.Text

/-- Closed ranges of code points, sorted and apart from each other. -/
abbrev RangeTable := Array (Nat × Nat)

namespace RangeTable

/-- Bisects the ranges from `lo` on and before `hi`. -/
def search (t : RangeTable) (n : Nat) : (fuel lo hi : Nat) → Bool
  | 0, _, _ => false
  | fuel + 1, lo, hi =>
    if lo < hi then
      let mid := (lo + hi) / 2
      match t[mid]? with
      | none => false
      | some (a, b) =>
        if n < a then search t n fuel lo mid
        else if b < n then search t n fuel (mid + 1) hi
        else true
    else false

/-- Whether a character lies in one of the ranges. -/
def includes (t : RangeTable) (c : Char) : Bool :=
  search t c.toNat (t.size + 1) 0 t.size

end RangeTable

end GuidedTour.Text
