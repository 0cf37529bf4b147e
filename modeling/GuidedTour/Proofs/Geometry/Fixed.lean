import GuidedTour.Geometry
import Mathlib.Tactic.Common

/-!
# Arithmetic that may fail

Positions and sizes are computed with numbers of any size and are cut only where the result is kept. A screen's own
arithmetic has 16 and 32 bits at every step, and there a sum may leave its range, a divisor may be zero and the ends of a
range may be crossed. The functions here are that arithmetic: they answer only if nothing is lost. A drawing that is
written with them and always answers, and with what the plain one makes, needs no number that does not fit.

Main results:

* `uint16?_of`, `uint32?_of`, `int32?_of` - a number within its range is answered as it is.
* `ceilDiv?_of`, `clamp?_of` - a quotient by a divisor that is not zero, and a number in a range that is one.
-/

namespace GuidedTour.Fixed

/-- The unsigned 16-bit number that an integer is, if it is one. -/
def uint16? (i : Int) : Option UInt16 := if 0 ≤ i ∧ i < 0x10000 then some (.ofNat i.toNat) else none

/-- The unsigned 32-bit number that an integer is, if it is one. -/
def uint32? (i : Int) : Option UInt32 := if 0 ≤ i ∧ i < 0x100000000 then some (.ofNat i.toNat) else none

/-- The signed 32-bit number that an integer is, if it is one. -/
def int32? (i : Int) : Option Int32 := if -0x80000000 ≤ i ∧ i < 0x80000000 then some (.ofInt i) else none

/-- The quotient of two numbers, rounded up. -/
def ceilDiv? (n d : UInt32) : Option UInt32 :=
  if d = 0 then none else uint32? (n.toNat / d.toNat + if n.toNat % d.toNat = 0 then 0 else 1 : Nat)

/-- A number moved into a range. -/
def clamp? (i lo hi : Int32) : Option Int32 :=
  if hi.toInt < lo.toInt then none
  else some (if i.toInt < lo.toInt then lo else if hi.toInt < i.toInt then hi else i)

theorem uint16?_of {i : Int} (hLow : 0 ≤ i) (hHigh : i < 0x10000) : ∃ n, uint16? i = some n ∧ (n.toNat : Int) = i := by
  refine ⟨_, if_pos ⟨hLow, hHigh⟩, ?_⟩
  rw [UInt16.toNat_ofNat']
  omega

theorem uint32?_of {i : Int} (hLow : 0 ≤ i) (hHigh : i < 0x100000000) :
    ∃ n, uint32? i = some n ∧ (n.toNat : Int) = i := by
  refine ⟨_, if_pos ⟨hLow, hHigh⟩, ?_⟩
  rw [UInt32.toNat_ofNat']
  omega

theorem int32?_of {i : Int} (hLow : -0x80000000 ≤ i) (hHigh : i < 0x80000000) :
    ∃ n, int32? i = some n ∧ n.toInt = i := by
  refine ⟨_, if_pos ⟨hLow, hHigh⟩, ?_⟩
  rw [Int32.toInt_ofInt]
  simp only [Int.bmod_def, Int32.size]
  omega

/-- Of an unsigned number below the middle of its range the sign is not mistaken. -/
theorem toInt_toInt32 {n : UInt32} (hLow : n.toNat < 0x80000000) : n.toInt32.toInt = n.toNat := by
  refine BitVec.toInt_eq_toNat_of_lt ?_
  show 2 * n.toNat < 2 ^ 32
  omega

/-- A quotient rounded up is answered unless the divisor is zero: it is no greater than what is divided. -/
theorem ceilDiv?_of (n : UInt32) {d : UInt32} (hDivisor : 1 ≤ d.toNat) :
    ∃ q, ceilDiv? n d = some q ∧ q.toNat = (n.toNat + (d.toNat - 1)) / d.toNat := by
  have hNumber := n.toNat_lt
  have hNonzero : d ≠ 0 := by
    rintro rfl
    cases hDivisor
  have hCeil : (n.toNat + (d.toNat - 1)) / d.toNat =
      n.toNat / d.toNat + if n.toNat % d.toNat = 0 then 0 else 1 := by
    rw [Nat.add_div hDivisor, Nat.div_eq_of_lt (Nat.sub_one_lt_of_lt hDivisor),
      Nat.mod_eq_of_lt (Nat.sub_one_lt_of_lt hDivisor), Nat.add_zero]
    refine congrArg _ ?_
    split <;> split <;> omega
  have hFits : n.toNat / d.toNat + (if n.toNat % d.toNat = 0 then 0 else 1) < 0x100000000 := by
    split
    · exact Nat.lt_of_le_of_lt (Nat.div_le_self _ _) hNumber
    · next hRest =>
      -- a divisor that leaves a rest is at least two
      have hProper : 1 < d.toNat := by
        refine Nat.lt_of_le_of_ne hDivisor fun hOne => hRest ?_
        rw [← hOne, Nat.mod_one]
      have hPositive : 0 < n.toNat := by
        refine Nat.pos_of_ne_zero fun hZero => hRest ?_
        rw [hZero, Nat.zero_mod]
      have hLess := Nat.div_lt_self hPositive hProper
      omega
  obtain ⟨q, hAnswer, hValue⟩ := uint32?_of (Int.natCast_nonneg _) (Int.ofNat_lt.mpr hFits)
  exact ⟨q, (if_neg hNonzero).trans hAnswer, by rw [hCeil]; exact Int.ofNat_inj.mp hValue⟩

theorem clamp?_of (i : Int32) {lo hi : Int32} (hRange : lo.toInt ≤ hi.toInt) :
    ∃ n, clamp? i lo hi = some n ∧ n.toInt = max lo.toInt (min i.toInt hi.toInt) := by
  refine ⟨_, if_neg (Int.not_lt.mpr hRange), ?_⟩
  split
  · omega
  · split <;> omega

end GuidedTour.Fixed
