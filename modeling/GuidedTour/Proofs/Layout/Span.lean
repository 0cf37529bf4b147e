import GuidedTour.Layout.Constraint
import Mathlib.Tactic.Common

/-!
# The interval of an axis

The required inequalities of an axis leave an interval of origins. Low inequalities may narrow it but never empty
it, and every place that is chosen afterwards lies inside. If the interval is empty from the start, its lower end is
chosen, which is the greatest origin that is required.

Main results:

* `contains_ofRequired` - the interval holds exactly the origins that satisfy every required inequality.
* `within_narrow` - what low inequalities leave is inhabited and lies inside.
* `settle_contains` / `settle_pinned` / `settle_conflict` - the origin that is chosen.
* `settle_congr` - where a required equality or a conflict decides, low requests do not matter.
-/

namespace GuidedTour.Layout

theorem toInt_max (a b : Int32) : (max a b).toInt = max a.toInt b.toInt := by
  show (if a ≤ b then b else a).toInt = max a.toInt b.toInt
  split
  · next h =>
    have hLe := Int32.le_iff_toInt_le.mp h
    omega
  · next h =>
    have hLt := Int32.le_iff_toInt_le.not.mp h
    omega

theorem toInt_min (a b : Int32) : (min a b).toInt = min a.toInt b.toInt := by
  show (if a ≤ b then a else b).toInt = min a.toInt b.toInt
  split
  · next h =>
    have hLe := Int32.le_iff_toInt_le.mp h
    omega
  · next h =>
    have hLt := Int32.le_iff_toInt_le.not.mp h
    omega

theorem max_of_le {a b : Int32} (h : b ≤ a) : max a b = a := by
  rw [← Int32.toInt_inj, toInt_max]
  have hLe := Int32.le_iff_toInt_le.mp h
  omega

theorem min_of_le {a b : Int32} (h : a ≤ b) : min a b = a := by
  rw [← Int32.toInt_inj, toInt_min]
  have hLe := Int32.le_iff_toInt_le.mp h
  omega

/-- Whether a request is a required one of the given relation. -/
def Request.IsRequired (r : Request) (relation : Relation) : Prop :=
  r.priority = .required ∧ r.relation = relation

namespace Span

/-! ## Intervals -/

/-- An origin lies in the interval. -/
def Contains (s : Span) (v : Int32) : Prop := (∀ l ∈ s.lower, l ≤ v) ∧ ∀ u ∈ s.upper, v ≤ u

/-- The ends of the interval do not cross. -/
def Inhabited (s : Span) : Prop := ∀ l ∈ s.lower, ∀ u ∈ s.upper, l ≤ u

theorem Contains.inhabited {s : Span} {v : Int32} (h : s.Contains v) : s.Inhabited := by
  intro l hl u hu
  exact Int32.le_trans (h.1 l hl) (h.2 u hu)

theorem lower_le_raise {s : Span} {origin v : Int32} :
    (∀ l ∈ (s.raise origin).lower, l ≤ v) ↔ (∀ l ∈ s.lower, l ≤ v) ∧ origin ≤ v := by
  obtain ⟨lower, upper⟩ := s
  cases lower with
  | none => simp [raise]
  | some l =>
    have hMax : max l origin ≤ v ↔ l ≤ v ∧ origin ≤ v := by
      simp only [Int32.le_iff_toInt_le, toInt_max]
      omega
    simp only [raise, Option.mem_some_iff, forall_eq', hMax]

theorem le_upper_cap {s : Span} {origin v : Int32} :
    (∀ u ∈ (s.cap origin).upper, v ≤ u) ↔ (∀ u ∈ s.upper, v ≤ u) ∧ v ≤ origin := by
  obtain ⟨lower, upper⟩ := s
  cases upper with
  | none => simp [cap]
  | some u =>
    have hMin : v ≤ min u origin ↔ v ≤ u ∧ v ≤ origin := by
      simp only [Int32.le_iff_toInt_le, toInt_min]
      omega
    simp only [cap, Option.mem_some_iff, forall_eq', hMin]

theorem contains_clamp {s : Span} (h : s.Inhabited) (v : Int32) : s.Contains (s.clamp v) := by
  obtain ⟨lower, upper⟩ := s
  refine ⟨fun l hl => ?_, fun u hu => ?_⟩
  · obtain rfl : lower = some l := hl
    cases upper with
    | none =>
      show l ≤ max v l
      rw [Int32.le_iff_toInt_le, toInt_max]
      omega
    | some u =>
      have hEnds := Int32.le_iff_toInt_le.mp (h l rfl u rfl)
      show l ≤ min (max v l) u
      rw [Int32.le_iff_toInt_le, toInt_min, toInt_max]
      omega
  · obtain rfl : upper = some u := hu
    cases lower with
    | none =>
      show min v u ≤ u
      rw [Int32.le_iff_toInt_le, toInt_min]
      omega
    | some l =>
      show min (max v l) u ≤ u
      rw [Int32.le_iff_toInt_le, toInt_min]
      omega

/-- The first end of an interval lies in it. -/
theorem contains_firstEnd {s : Span} (h : s.Inhabited) : s.Contains ((s.lower <|> s.upper).getD 0) := by
  obtain ⟨lower, upper⟩ := s
  cases lower with
  | some l =>
    refine ⟨fun l' hl' => ?_, fun u hu => h l rfl u hu⟩
    cases hl'
    exact Int32.le_refl l
  | none =>
    refine ⟨fun l hl => absurd hl (Option.not_mem_none l), fun u hu => ?_⟩
    cases hu
    exact Int32.le_refl u

theorem clamp_of_contains {s : Span} {v : Int32} (h : s.Contains v) : s.clamp v = v := by
  obtain ⟨lower, upper⟩ := s
  obtain ⟨hLower, hUpper⟩ := h
  cases lower with
  | none =>
    cases upper with
    | none => rfl
    | some u => exact min_of_le (hUpper u rfl)
  | some l =>
    have hRaised : max v l = v := max_of_le (hLower l rfl)
    cases upper with
    | none => exact hRaised
    | some u =>
      show min (max v l) u = v
      rw [hRaised]
      exact min_of_le (hUpper u rfl)

/-! ## Required inequalities -/

theorem lower_le_require {s : Span} {r : Request} {v : Int32} :
    (∀ l ∈ (s.require r).lower, l ≤ v) ↔
      (∀ l ∈ s.lower, l ≤ v) ∧ (r.IsRequired .greaterOrEqual → r.origin ≤ v) := by
  obtain ⟨relation, priority, origin⟩ := r
  cases priority with
  | low => simp [require, Request.IsRequired]
  | required =>
    cases relation with
    | greaterOrEqual => exact lower_le_raise.trans (and_congr_right' ⟨fun h _ => h, fun h => h ⟨rfl, rfl⟩⟩)
    | _ => simp [require, Request.IsRequired, cap]

theorem le_upper_require {s : Span} {r : Request} {v : Int32} :
    (∀ u ∈ (s.require r).upper, v ≤ u) ↔
      (∀ u ∈ s.upper, v ≤ u) ∧ (r.IsRequired .lessOrEqual → v ≤ r.origin) := by
  obtain ⟨relation, priority, origin⟩ := r
  cases priority with
  | low => simp [require, Request.IsRequired]
  | required =>
    cases relation with
    | lessOrEqual => exact le_upper_cap.trans (and_congr_right' ⟨fun h _ => h, fun h => h ⟨rfl, rfl⟩⟩)
    | _ => simp [require, Request.IsRequired, raise]

theorem lower_le_foldl {requests : List Request} {s : Span} {v : Int32} :
    (∀ l ∈ (requests.foldl require s).lower, l ≤ v) ↔
      (∀ l ∈ s.lower, l ≤ v) ∧ ∀ r ∈ requests, r.IsRequired .greaterOrEqual → r.origin ≤ v := by
  induction requests generalizing s with
  | nil => simp
  | cons r rest ih => rw [List.foldl_cons, ih, lower_le_require, List.forall_mem_cons, and_assoc]

theorem le_upper_foldl {requests : List Request} {s : Span} {v : Int32} :
    (∀ u ∈ (requests.foldl require s).upper, v ≤ u) ↔
      (∀ u ∈ s.upper, v ≤ u) ∧ ∀ r ∈ requests, r.IsRequired .lessOrEqual → v ≤ r.origin := by
  induction requests generalizing s with
  | nil => simp
  | cons r rest ih => rw [List.foldl_cons, ih, le_upper_require, List.forall_mem_cons, and_assoc]

theorem lower_le_ofRequired {requests : List Request} {v : Int32} :
    (∀ l ∈ (ofRequired requests).lower, l ≤ v) ↔ ∀ r ∈ requests, r.IsRequired .greaterOrEqual → r.origin ≤ v := by
  rw [ofRequired, lower_le_foldl]
  exact and_iff_right fun l hl => by cases hl

theorem le_upper_ofRequired {requests : List Request} {v : Int32} :
    (∀ u ∈ (ofRequired requests).upper, v ≤ u) ↔ ∀ r ∈ requests, r.IsRequired .lessOrEqual → v ≤ r.origin := by
  rw [ofRequired, le_upper_foldl]
  exact and_iff_right fun u hu => by cases hu

theorem contains_ofRequired {requests : List Request} {v : Int32} :
    (ofRequired requests).Contains v ↔ (∀ r ∈ requests, r.IsRequired .greaterOrEqual → r.origin ≤ v) ∧
      ∀ r ∈ requests, r.IsRequired .lessOrEqual → v ≤ r.origin :=
  and_congr lower_le_ofRequired le_upper_ofRequired

theorem lower_raise {s : Span} {origin l : Int32} (h : (s.raise origin).lower = some l) :
    s.lower = some l ∨ origin = l := by
  obtain ⟨lower, upper⟩ := s
  cases lower with
  | none => exact .inr (Option.some.inj h)
  | some held =>
    have hMax : (if held ≤ origin then origin else held) = l := Option.some.inj h
    split at hMax
    · exact .inr hMax
    · exact .inl (congrArg some hMax)

theorem upper_cap {s : Span} {origin u : Int32} (h : (s.cap origin).upper = some u) :
    s.upper = some u ∨ origin = u := by
  obtain ⟨lower, upper⟩ := s
  cases upper with
  | none => exact .inr (Option.some.inj h)
  | some held =>
    have hMin : (if held ≤ origin then held else origin) = u := Option.some.inj h
    split at hMin
    · exact .inl (congrArg some hMin)
    · exact .inr hMin

theorem lower_require {s : Span} {r : Request} {l : Int32} (h : (s.require r).lower = some l) :
    s.lower = some l ∨ r.IsRequired .greaterOrEqual ∧ r.origin = l := by
  obtain ⟨relation, priority, origin⟩ := r
  cases priority with
  | low => exact .inl h
  | required =>
    cases relation with
    | greaterOrEqual => exact (lower_raise h).imp_right fun hNew => ⟨⟨rfl, rfl⟩, hNew⟩
    | _ => exact .inl h

theorem upper_require {s : Span} {r : Request} {u : Int32} (h : (s.require r).upper = some u) :
    s.upper = some u ∨ r.IsRequired .lessOrEqual ∧ r.origin = u := by
  obtain ⟨relation, priority, origin⟩ := r
  cases priority with
  | low => exact .inl h
  | required =>
    cases relation with
    | lessOrEqual => exact (upper_cap h).imp_right fun hNew => ⟨⟨rfl, rfl⟩, hNew⟩
    | _ => exact .inl h

theorem ends_foldl_require {requests : List Request} {s : Span} :
    (∀ l, (requests.foldl require s).lower = some l →
      s.lower = some l ∨ ∃ r ∈ requests, r.IsRequired .greaterOrEqual ∧ r.origin = l) ∧
    ∀ u, (requests.foldl require s).upper = some u →
      s.upper = some u ∨ ∃ r ∈ requests, r.IsRequired .lessOrEqual ∧ r.origin = u := by
  induction requests generalizing s with
  | nil => exact ⟨fun l h => .inl h, fun u h => .inl h⟩
  | cons r rest ih =>
    obtain ⟨hLower, hUpper⟩ := ih (s := s.require r)
    refine ⟨fun l h => ?_, fun u h => ?_⟩
    · rcases hLower l h with hBefore | ⟨q, hq, hAsks⟩
      · exact (lower_require hBefore).imp_right fun hAsks => ⟨r, List.mem_cons_self, hAsks⟩
      · exact .inr ⟨q, List.mem_cons_of_mem r hq, hAsks⟩
    · rcases hUpper u h with hBefore | ⟨q, hq, hAsks⟩
      · exact (upper_require hBefore).imp_right fun hAsks => ⟨r, List.mem_cons_self, hAsks⟩
      · exact .inr ⟨q, List.mem_cons_of_mem r hq, hAsks⟩

theorem lower_ofRequired {requests : List Request} {l : Int32} (h : (ofRequired requests).lower = some l) :
    ∃ r ∈ requests, r.IsRequired .greaterOrEqual ∧ r.origin = l :=
  (ends_foldl_require.1 l h).resolve_left fun hOpen => by cases hOpen

theorem upper_ofRequired {requests : List Request} {u : Int32} (h : (ofRequired requests).upper = some u) :
    ∃ r ∈ requests, r.IsRequired .lessOrEqual ∧ r.origin = u :=
  (ends_foldl_require.2 u h).resolve_left fun hOpen => by cases hOpen

/-! ## Low inequalities -/

/-- An interval inside another that is inhabited still. -/
structure Within (t s : Span) : Prop where
  inhabited : t.Inhabited
  subset    : ∀ v, t.Contains v → s.Contains v

theorem within_raise {t s : Span} {origin : Int32} (h : Within t s) (hBelow : ∀ u ∈ t.upper, origin ≤ u) :
    Within (t.raise origin) s := by
  refine ⟨fun l hl u hu => ?_, fun v hv => h.subset v ⟨(lower_le_raise.mp hv.1).1, hv.2⟩⟩
  rcases lower_raise hl with hOld | rfl
  · exact h.inhabited l hOld u hu
  · exact hBelow u hu

theorem within_cap {t s : Span} {origin : Int32} (h : Within t s) (hAbove : ∀ l ∈ t.lower, l ≤ origin) :
    Within (t.cap origin) s := by
  refine ⟨fun l hl u hu => ?_, fun v hv => h.subset v ⟨hv.1, (le_upper_cap.mp hv.2).1⟩⟩
  rcases upper_cap hu with hOld | rfl
  · exact h.inhabited l hl u hOld
  · exact hAbove l hl

theorem within_prefer {t s : Span} (r : Request) (h : Within t s) : Within (t.prefer r) s := by
  unfold prefer
  split
  · split
    · next hBelow =>
      refine within_raise h fun u hu => ?_
      rw [Option.all_eq_true] at hBelow
      exact of_decide_eq_true (hBelow u hu)
    · exact h
  · split
    · next hAbove =>
      refine within_cap h fun l hl => ?_
      rw [Option.all_eq_true] at hAbove
      exact of_decide_eq_true (hAbove l hl)
    · exact h
  · exact h

theorem within_narrow {s : Span} (requests : List Request) (h : s.Inhabited) : Within (s.narrow requests) s := by
  -- induction on the requests, over every interval that they may have left so far
  have hFold : ∀ t, Within t s → Within (requests.foldl prefer t) s := by
    induction requests with
    | nil => exact fun t ht => ht
    | cons r rest ih => exact fun t ht => ih (t.prefer r) (within_prefer r ht)
  exact hFold s ⟨h, fun _ hv => hv⟩

end Span

/-! ## The origin that is chosen -/

/-- The required inequalities among some requests can hold together. -/
def Satisfiable (requests : List Request) : Prop :=
  ∀ r ∈ requests, r.IsRequired .greaterOrEqual → ∀ q ∈ requests, q.IsRequired .lessOrEqual → r.origin ≤ q.origin

theorem satisfiable_iff {requests : List Request} : Satisfiable requests ↔ (Span.ofRequired requests).Inhabited := by
  constructor
  · intro h l hl u hu
    obtain ⟨r, hr, hAtLeast, rfl⟩ := Span.lower_ofRequired hl
    obtain ⟨q, hq, hAtMost, rfl⟩ := Span.upper_ofRequired hu
    exact h r hr hAtLeast q hq hAtMost
  · intro h r hr hAtLeast q hq hAtMost
    -- any origin inside the interval separates the two
    have hInside := Span.contains_ofRequired.mp (Span.contains_clamp h 0)
    exact Int32.le_trans (hInside.1 r hr hAtLeast) (hInside.2 q hq hAtMost)

theorem contains_place {requests : List Request} {s : Span} (h : s.Inhabited) :
    s.Contains (settle.place requests s) := by
  have hNarrow := Span.within_narrow requests h
  unfold settle.place
  split
  · exact Span.contains_clamp h _
  · dsimp only
    split
    · exact hNarrow.subset _ (Span.contains_clamp hNarrow.inhabited _)
    · -- without a preference one of the ends is taken
      exact hNarrow.subset _ (Span.contains_firstEnd hNarrow.inhabited)

theorem settle_of_inhabited {requests : List Request} (h : (Span.ofRequired requests).Inhabited) :
    settle requests = settle.place requests (Span.ofRequired requests) := by
  unfold settle
  dsimp only
  split
  · next low high hLow hHigh =>
    exact if_neg (Int32.not_lt.mpr (h low hLow high hHigh))
  · rfl

theorem settle_contains {requests : List Request} (h : Satisfiable requests) :
    (Span.ofRequired requests).Contains (settle requests) := by
  have hInhabited := satisfiable_iff.mp h
  rw [settle_of_inhabited hInhabited]
  exact contains_place hInhabited

theorem settle_pinned {requests : List Request} {pinned : Int32}
    (hFirst : firstEqual .required requests = some pinned) (hInside : (Span.ofRequired requests).Contains pinned) :
    settle requests = pinned := by
  rw [settle_of_inhabited hInside.inhabited, settle.place, hFirst]
  exact Span.clamp_of_contains hInside

theorem settle_of_conflict {requests : List Request} (h : ¬ Satisfiable requests) :
    (Span.ofRequired requests).lower = some (settle requests) := by
  rw [satisfiable_iff] at h
  -- both ends exist, and they cross
  obtain ⟨low, hLow, high, hHigh, hCross⟩ : ∃ low, (Span.ofRequired requests).lower = some low ∧
      ∃ high, (Span.ofRequired requests).upper = some high ∧ ¬ low ≤ high := by
    unfold Span.Inhabited at h
    push Not at h
    obtain ⟨low, hLow, high, hHigh, hCross⟩ := h
    exact ⟨low, hLow, high, hHigh, hCross⟩
  have hSettle : settle requests = low := by
    unfold settle
    dsimp only
    rw [hLow, hHigh]
    exact if_pos (Int32.not_le.mp hCross)
  rw [hSettle, hLow]

theorem settle_conflict {requests : List Request} (h : ¬ Satisfiable requests) :
    (∃ r ∈ requests, r.IsRequired .greaterOrEqual ∧ r.origin = settle requests) ∧
      ∀ r ∈ requests, r.IsRequired .greaterOrEqual → r.origin ≤ settle requests := by
  have hLower := settle_of_conflict h
  refine ⟨Span.lower_ofRequired hLower, Span.lower_le_ofRequired.mp fun l hl => ?_⟩
  rw [hLower] at hl
  cases hl
  exact Int32.le_refl _

/-! ## Low requests -/

/-- The required requests, in order. -/
def required (requests : List Request) : List Request := requests.filter (·.priority = .required)

theorem ofRequired_required (requests : List Request) :
    Span.ofRequired (required requests) = Span.ofRequired requests := by
  have hStep : (fun (s : Span) (r : Request) => if r.priority = .required then s.require r else s) =
      Span.require := by
    funext s r
    obtain ⟨relation, priority, origin⟩ := r
    cases priority <;> rfl
  unfold Span.ofRequired required
  rw [List.foldl_filter]
  simp only [decide_eq_true_eq, hStep]

theorem firstEqual_required (requests : List Request) :
    firstEqual .required (required requests) = firstEqual .required requests := by
  unfold firstEqual required
  rw [List.find?_filter]
  congr 2
  funext r
  cases hPriority : decide (r.priority = .required) <;> simp

theorem settle_congr {requests others : List Request} (hSame : required requests = required others)
    (hDecided : (firstEqual .required requests).isSome = true ∨ ¬ Satisfiable requests) :
    settle requests = settle others := by
  have hSpan : Span.ofRequired requests = Span.ofRequired others := by
    rw [← ofRequired_required requests, hSame, ofRequired_required]
  have hFirst : firstEqual .required requests = firstEqual .required others := by
    rw [← firstEqual_required requests, hSame, firstEqual_required]
  have hBoth : Satisfiable requests ↔ Satisfiable others := by rw [satisfiable_iff, satisfiable_iff, hSpan]
  by_cases hSat : Satisfiable requests
  · -- the pinned origin is moved into the same interval
    obtain ⟨pinned, hPinned⟩ := Option.isSome_iff_exists.mp (hDecided.resolve_right (not_not_intro hSat))
    rw [settle_of_inhabited (satisfiable_iff.mp hSat), settle_of_inhabited (satisfiable_iff.mp (hBoth.mp hSat))]
    rw [settle.place, settle.place, ← hFirst, hPinned, hSpan]
  · -- both lists lead to the same lower end
    have hHere := settle_of_conflict hSat
    have hThere := settle_of_conflict (hBoth.not.mp hSat)
    rw [hSpan, hThere] at hHere
    exact (Option.some.inj hHere).symm

end GuidedTour.Layout
