import GuidedTour.Motion.Tween
import Mathlib.Algebra.Order.Group.Int
import Mathlib.Data.Prod.Lex
import Mathlib.Order.Compare

/-!
# Tweens at rest

The progress of a tween is computed in single precision, and so is the comparison that says whether it still runs. The
numbers among the floats are ordered as their ranks are, lexicographically by sign, exponent and mantissa; what is not a
number has no rank and is in no order at all. Where single precision keeps the order of the spans of time that count, a
tween that has stopped running has arrived, and is there at every later reading of the clock.

Main results:

* `compare_eq` - floats compare as their ranks do.
* `eq_one_of_le` - a number that is not less and not greater than one is one.
* `Course.keepsOrder_of_monotone` - what single precision needs for its order to be that of the spans of time.
* `Tween.rest_later` - a tween that does not run has arrived for good.
-/

namespace GuidedTour.Motion

open Float.Model

/-! ## The order of floats -/

/-- The place of a float among the numbers: by its sign, then by its exponent, then by its mantissa. -/
def rank : UnpackedFloat → Option (ℤ ×ₗ ℤ ×ₗ ℤ)
  | .notANumber => none
  | .infinity .negative => some (toLex (-2, toLex (0, 0)))
  | .finite .negative mantissa exponent _ => some (toLex (-1, toLex (-exponent, -mantissa)))
  | .zero _ => some (toLex (0, toLex (0, 0)))
  | .finite .positive mantissa exponent _ => some (toLex (1, toLex (exponent, mantissa)))
  | .infinity .positive => some (toLex (2, toLex (0, 0)))

theorem compare_natCast (m n : ℕ) : compare (m : ℤ) n = compare m n := by
  rw [← cmp_eq_compare, ← cmp_eq_compare]
  exact StrictMono.cmp_map_eq (fun _ _ => Int.ofNat_lt.mpr) m n

theorem compare_neg (m n : ℤ) : compare (-m) (-n) = (compare m n).swap := by
  rw [← cmp_eq_compare, ← cmp_eq_compare, cmp_swap]
  exact StrictAnti.cmp_map_eq (fun _ _ => Int.neg_lt_neg) m n

/-- Floats compare as their ranks do; what has no rank does not compare. -/
theorem compare_eq (a b : UnpackedFloat) :
    a.compare b = (rank a).bind fun x => (rank b).map fun y => compare x y := by
  -- only finite numbers of one sign are told apart by exponent and mantissa; all else is decided by the kind
  rcases a with ⟨_ | _⟩ | _ | _ | ⟨_ | _, m₁, e₁, h₁⟩ <;> rcases b with ⟨_ | _⟩ | _ | _ | ⟨_ | _, m₂, e₂, h₂⟩ <;>
    try rfl
  · show some ((compare e₁ e₂).then (compare m₁ m₂)).swap =
      some ((compare (-e₁) (-e₂)).then (compare (-m₁ : ℤ) (-m₂)))
    rw [compare_neg, compare_neg, compare_natCast, Ordering.swap_then]
  · show some ((compare e₁ e₂).then (compare m₁ m₂)) = some ((compare e₁ e₂).then (compare (m₁ : ℤ) m₂))
    rw [compare_natCast]

/-- The bits of one, read back from what they stand for. -/
theorem bits_of_unpack_one {b : BitVec 32} {hPos}
    (h : UnpackedFloat.unpack Format.binary32 b = .finite .positive 8388608 (-23) hPos) : b = 0x3f800000#32 := by
  -- the three parts of the bits as numbers
  have hMantissa : (@UnpackedFloat.unpackMantissa Format.binary32 b).toNat = b.toNat % 8388608 := by
    simp [UnpackedFloat.unpackMantissa]
  have hExponent : (@UnpackedFloat.unpackExponent Format.binary32 b).toNat = b.toNat / 8388608 % 256 := by
    simp [UnpackedFloat.unpackExponent, Nat.shiftRight_eq_div_pow]
  have hSign : (@UnpackedFloat.unpackSign Format.binary32 b).toNat = b.toNat / 2147483648 % 2 := by
    show ((b.extractLsb 31 31).cast _).toNat = _
    simp [Nat.shiftRight_eq_div_pow]
  have hBias : Format.binary32.exponentBias = 127 := rfl
  unfold UnpackedFloat.unpack at h
  dsimp only at h
  -- the highest exponent is that of infinities and of what is no number
  have hTop : @UnpackedFloat.unpackExponent Format.binary32 b ≠ -1#8 := by
    intro hTop
    rw [if_pos hTop] at h
    by_cases hNone : @UnpackedFloat.unpackMantissa Format.binary32 b = 0#23
    · rw [if_pos hNone] at h
      cases h
    · rw [if_neg hNone] at h
      cases h
  have hNormal : @UnpackedFloat.unpackExponent Format.binary32 b ≠ 0#8 := by
    intro hLow
    rw [if_neg hTop, if_pos hLow] at h
    by_cases hNone : @UnpackedFloat.unpackMantissa Format.binary32 b = 0#23
    · rw [dif_pos hNone] at h
      cases h
    · -- a subnormal mantissa is too short
      rw [dif_neg hNone] at h
      injection h with _ hm _
      omega
  rw [if_neg hTop, if_neg hNormal] at h
  injection h with hs hm he
  have hPositive : @UnpackedFloat.unpackSign Format.binary32 b = 0#1 := by
    by_contra hNegative
    rw [UnpackedFloat.Sign.ofBitVec, if_neg hNegative] at hs
    cases hs
  have hZero : b.toNat / 2147483648 % 2 = 0 := by
    rw [← hSign, hPositive]
    rfl
  have hNoRest : b.toNat % 8388608 = 0 := by
    have hSmall : b.toNat % 8388608 < 2 ^ 23 := Nat.mod_lt _ (by decide)
    rw [BitVec.toNat_append, hMantissa, ← Nat.shiftLeft_add_eq_or_of_lt hSmall] at hm
    exact Nat.add_left_cancel hm
  rw [hExponent, hBias] at he
  refine BitVec.eq_of_toNat_eq ?_
  show b.toNat = 1065353216
  have hRange : b.toNat < 4294967296 := b.isLt
  omega

/-- Equal ranks agree in the kind of number and in the place among its kind. -/
theorem rank_inj {x y : ℤ} {p q : ℤ ×ₗ ℤ} (h : some (toLex (x, p)) = some (toLex (y, q))) : x = y ∧ p = q := by
  rwa [Option.some.injEq, EmbeddingLike.apply_eq_iff_eq, Prod.mk.injEq] at h

theorem eq_of_rank_positive {u : UnpackedFloat} {mantissa : ℕ} {exponent : ℤ} {hPos : 0 < mantissa}
    (h : rank u = rank (.finite .positive mantissa exponent hPos)) : u = .finite .positive mantissa exponent hPos := by
  cases u with
  | notANumber => cases h
  | zero sign => exact absurd (rank_inj h).1 (by decide)
  | infinity sign => cases sign <;> exact absurd (rank_inj h).1 (by decide)
  | finite sign m e _ =>
    cases sign with
    | negative => exact absurd (rank_inj h).1 (by decide)
    | positive =>
      have hPlace : toLex (e, (m : ℤ)) = toLex (exponent, (mantissa : ℤ)) := (rank_inj h).2
      rw [EmbeddingLike.apply_eq_iff_eq, Prod.mk.injEq, Int.natCast_inj] at hPlace
      obtain ⟨rfl, rfl⟩ := hPlace
      rfl

section Order

variable {a b c : Float32}

theorem le_iff_rank : a ≤ b ↔ ∃ x ∈ rank a.toModel.unpack, ∃ y ∈ rank b.toModel.unpack, x ≤ y := by
  have hModel : a ≤ b ↔ ((a.toModel.unpack.compare b.toModel.unpack).any (·.isLE)) = true := decide_eq_true_iff
  rw [hModel, compare_eq]
  cases rank a.toModel.unpack <;> cases rank b.toModel.unpack <;>
    simp [Ordering.isLE_iff_ne_gt, compare_le_iff_le]

theorem lt_iff_rank : a < b ↔ ∃ x ∈ rank a.toModel.unpack, ∃ y ∈ rank b.toModel.unpack, x < y := by
  have hModel : a < b ↔ (a.toModel.unpack.compare b.toModel.unpack == some .lt) = true := decide_eq_true_iff
  rw [hModel, compare_eq]
  cases rank a.toModel.unpack <;> cases rank b.toModel.unpack <;> simp [compare_lt_iff_lt]

theorem float_le_trans (h : a ≤ b) (h' : b ≤ c) : a ≤ c := by
  obtain ⟨x, hx, y, hy, hFirst⟩ := le_iff_rank.mp h
  obtain ⟨y', hy', z, hz, hSecond⟩ := le_iff_rank.mp h'
  obtain rfl := Option.mem_unique hy hy'
  exact le_iff_rank.mpr ⟨x, hx, z, hz, hFirst.trans hSecond⟩

theorem float_le_of_lt (h : a < b) : a ≤ b := by
  obtain ⟨x, hx, y, hy, hLess⟩ := lt_iff_rank.mp h
  exact le_iff_rank.mpr ⟨x, hx, y, hy, hLess.le⟩

theorem float_lt_of_lt_of_le (h : a < b) (h' : b ≤ c) : a < c := by
  obtain ⟨x, hx, y, hy, hFirst⟩ := lt_iff_rank.mp h
  obtain ⟨y', hy', z, hz, hSecond⟩ := le_iff_rank.mp h'
  obtain rfl := Option.mem_unique hy hy'
  exact lt_iff_rank.mpr ⟨x, hx, z, hz, hFirst.trans_le hSecond⟩

theorem float_not_lt_of_le (h : a ≤ b) : ¬ b < a := by
  intro hLess
  obtain ⟨x, hx, y, hy, hLe⟩ := le_iff_rank.mp h
  obtain ⟨y', hy', x', hx', hLt⟩ := lt_iff_rank.mp hLess
  obtain rfl := Option.mem_unique hx hx'
  obtain rfl := Option.mem_unique hy hy'
  exact absurd hLt hLe.not_gt

/-- Of two numbers one is the smaller; a number is what is in order with itself. -/
theorem float_le_of_not_lt (ha : a ≤ a) (hb : b ≤ b) (h : ¬ b < a) : a ≤ b := by
  obtain ⟨x, hx, -⟩ := le_iff_rank.mp ha
  obtain ⟨y, hy, -⟩ := le_iff_rank.mp hb
  refine le_iff_rank.mpr ⟨x, hx, y, hy, ?_⟩
  by_contra hGreater
  exact h (lt_iff_rank.mpr ⟨y, hy, x, hx, not_le.mp hGreater⟩)

/-- A number that is neither less nor greater than one is one, bit by bit. -/
theorem eq_one_of_le (h : 1 ≤ a) (h' : ¬ 1 < a) : a = 1 := by
  obtain ⟨x, hx, y, hy, hLe⟩ := le_iff_rank.mp h
  have hSame : y = x := by
    refine le_antisymm ?_ hLe
    by_contra hGreater
    exact h' (lt_iff_rank.mpr ⟨x, hx, y, hy, not_le.mp hGreater⟩)
  -- the model of one is known as its bits, and so is what it is unpacked to
  have hUnpack : a.toModel.unpack = .finite .positive 8388608 (-23) (by decide) := by
    refine eq_of_rank_positive (hy.trans ?_)
    rw [hSame, ← show rank (1 : Float32).toModel.unpack = some x from hx]
    rfl
  obtain ⟨⟨bits, hValid⟩⟩ := a
  obtain ⟨bits⟩ := bits
  obtain rfl := bits_of_unpack_one hUnpack
  rfl

end Order

/-! ## Courses of time -/

/-- A course of time. -/
structure Course where
  started  : Nanos
  duration : Nanos

namespace Course

/-- How long the course has been going on. -/
def elapsed (c : Course) (now : Nanos) : Nanos := now - c.started

/-- A span of time as a part of the course. -/
def share (c : Course) (span : Nanos) : Float32 := seconds span / seconds c.duration

/-- Single precision keeps the order of the spans of time that count for a course at two readings of the clock: the part
that has passed at each of them, and the whole. In particular, each part is a number. -/
def KeepsOrder (c : Course) (now later : Nanos) : Prop :=
  c.duration ≠ 0 → ∀ a ∈ [c.duration, c.elapsed now, c.elapsed later],
    ∀ b ∈ [c.duration, c.elapsed now, c.elapsed later], a ≤ b → c.share a ≤ c.share b

instance (c : Course) (now later : Nanos) : Decidable (c.KeepsOrder now later) :=
  inferInstanceAs (Decidable (_ → _))

/-- It does so for every course whose parts are numbers if seconds and quotients do not decrease. -/
theorem keepsOrder_of_monotone {c : Course} (hSeconds : ∀ m n : Nanos, m ≤ n → seconds m ≤ seconds n)
    (hQuotient : ∀ x y d : Float32, x ≤ y → 0 < d → x / d ≤ x / d → y / d ≤ y / d → x / d ≤ y / d)
    (hNumber : ∀ span, c.share span ≤ c.share span) (now later : Nanos) : c.KeepsOrder now later := by
  intro hCourse a _ b _ hLe
  have hNano : (0 : Float32) < seconds 1 := by decide +kernel
  have hPositive : 0 < seconds c.duration :=
    float_lt_of_lt_of_le hNano (hSeconds 1 c.duration (Nat.pos_of_ne_zero hCourse))
  exact hQuotient _ _ _ (hSeconds a b hLe) hPositive (hNumber a) (hNumber b)

end Course

namespace Tween

variable {α : Type} {t : Tween α} {now later : Nanos}

/-- The course of a tween. -/
def course (t : Tween α) : Course := ⟨t.started, t.duration⟩

/-- The progress is the part that has passed, kept from zero to one. -/
theorem progress_eq (hCourse : t.duration ≠ 0) (now : Nanos) :
    t.progress now = if t.course.share (t.course.elapsed now) < 0 then 0
      else if 1 < t.course.share (t.course.elapsed now) then 1 else t.course.share (t.course.elapsed now) :=
  if_neg hCourse

theorem progress_of_passed (hCourse : t.duration ≠ 0) (hPassed : 1 ≤ t.course.share (t.course.elapsed now)) :
    t.progress now = 1 := by
  have hPositive : ¬ t.course.share (t.course.elapsed now) < 0 :=
    float_not_lt_of_le (float_le_trans (by decide) hPassed)
  rw [progress_eq hCourse, if_neg hPositive]
  split
  · rfl
  · -- neither less nor greater than one
    next hExact => exact eq_one_of_le hPassed hExact

/-- A tween that does not run has passed its whole course, unless what has passed of it is not even a number. -/
theorem passed_of_stopped (hCourse : t.duration ≠ 0)
    (hNumber : t.course.share (t.course.elapsed now) ≤ t.course.share (t.course.elapsed now))
    (hStopped : t.isRunning now = false) : 1 ≤ t.course.share (t.course.elapsed now) := by
  rw [isRunning, decide_eq_false_iff_not, progress_eq hCourse] at hStopped
  -- a progress of zero would still run; above one it is cut off; in between it is the share itself
  split at hStopped
  · exact absurd (by decide) hStopped
  · split at hStopped
    · next hMore => exact float_le_of_lt hMore
    · exact float_le_of_not_lt (by decide) hNumber hStopped

/-- A tween that does not run has arrived, and so it has at every later reading of the clock. -/
theorem rest_later (hOrder : t.course.KeepsOrder now later) (hLater : now ≤ later)
    (hStopped : t.isRunning now = false) : t.progress now = 1 ∧ t.progress later = 1 := by
  by_cases hCourse : t.duration = 0
  · exact ⟨if_pos hCourse, if_pos hCourse⟩
  have hParts := hOrder hCourse
  have hPassed : 1 ≤ t.course.share (t.course.elapsed now) :=
    passed_of_stopped hCourse (hParts _ (by simp) _ (by simp) (Nat.le_refl _)) hStopped
  have hGrows : t.course.share (t.course.elapsed now) ≤ t.course.share (t.course.elapsed later) :=
    hParts _ (by simp) _ (by simp) (Nat.sub_le_sub_right hLater _)
  exact ⟨progress_of_passed hCourse hPassed, progress_of_passed hCourse (float_le_trans hPassed hGrows)⟩

theorem isRunning_of_rest (hRest : t.progress now = 1) : t.isRunning now = false := by
  rw [isRunning, hRest]
  decide

end Tween

end GuidedTour.Motion
