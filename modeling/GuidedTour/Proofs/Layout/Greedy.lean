import GuidedTour.Proofs.Layout.Dominance
import Mathlib.Data.List.Induction

/-!
# Low constraints are chosen greedily

Where the required constraints leave an axis open, its low constraints are asked one after the other. A low inequality
is kept if some origin can meet it together with the required inequalities and those kept before it. The solver looks
at one end of its interval only, the one that the inequality would cross; since the interval is inhabited all along,
that is enough. The first low equality then takes the nearest place that is left, and without one the item goes to an
end of the interval.

Main results:

* `inhabited_tighten` - one end decides whether an inequality leaves an interval inhabited.
* `narrow_of` - low inequalities leave the interval of the required ones and of those that are kept.
* `clamp_nearest` - an origin that is moved into an interval goes to the nearest place in it.
* `solve_greedy` - what the low constraints of an axis make of a solved item.
-/

namespace GuidedTour.Layout

/-! ## Requests and the origins that meet them -/

/-- An origin meets what a request asks for. -/
def Request.MetBy (r : Request) (v : Int32) : Prop :=
  match r.relation with
  | .equal => v = r.origin
  | .greaterOrEqual => r.origin ≤ v
  | .lessOrEqual => v ≤ r.origin

/-- Some origin meets all of these requests. -/
def Compatible (requests : List Request) : Prop := ∃ v, ∀ r ∈ requests, r.MetBy v

/-- The inequalities of a priority among some requests, in order. -/
def inequalities (priority : Priority) (requests : List Request) : List Request :=
  requests.filter fun r => r.priority = priority && r.relation ≠ .equal

/-- What is kept of the requests that are offered, in order, while others are held already: each one that can be met
together with everything that is held or was kept before it. -/
inductive Keeps : List Request → List Request → List Request → Prop
  | done {held : List Request} : Keeps held [] []
  | keep {held rest kept : List Request} {r : Request} (hFits : Compatible (held ++ [r]))
      (hRest : Keeps (held ++ [r]) rest kept) : Keeps held (r :: rest) (r :: kept)
  | skip {held rest kept : List Request} {r : Request} (hClash : ¬ Compatible (held ++ [r]))
      (hRest : Keeps held rest kept) : Keeps held (r :: rest) kept

theorem mem_inequalities {priority : Priority} {requests : List Request} {r : Request} :
    r ∈ inequalities priority requests ↔ r ∈ requests ∧ r.priority = priority ∧ r.relation ≠ .equal := by
  simp [inequalities]

namespace Keeps

theorem exists_kept (held offered : List Request) : ∃ kept, Keeps held offered kept := by
  induction offered generalizing held with
  | nil => exact ⟨[], .done⟩
  | cons r rest ih =>
    by_cases hFits : Compatible (held ++ [r])
    · obtain ⟨kept, hKept⟩ := ih (held ++ [r])
      exact ⟨r :: kept, .keep hFits hKept⟩
    · obtain ⟨kept, hKept⟩ := ih held
      exact ⟨kept, .skip hFits hKept⟩

/-- There is no choice in what is kept. -/
theorem unique {held offered kept other : List Request} (h : Keeps held offered kept)
    (hOther : Keeps held offered other) : other = kept := by
  induction h generalizing other with
  | done =>
    cases hOther
    rfl
  | keep hFits hRest ih =>
    cases hOther with
    | keep hFits' hRest' => rw [ih hRest']
    | skip hClash hRest' => exact absurd hFits hClash
  | skip hClash hRest ih =>
    cases hOther with
    | keep hFits hRest' => exact absurd hFits hClash
    | skip hClash' hRest' => exact ih hRest'

theorem mem {held offered kept : List Request} (h : Keeps held offered kept) {r : Request} (hr : r ∈ kept) :
    r ∈ offered := by
  induction h with
  | done => exact hr
  | keep hFits hRest ih =>
    rcases List.mem_cons.mp hr with rfl | hRest
    · exact List.mem_cons_self
    · exact List.mem_cons_of_mem _ (ih hRest)
  | skip hClash hRest ih => exact List.mem_cons_of_mem _ (ih hr)

/-- What is kept of two lists in a row is kept of the first, and then of the second. -/
theorem append_inv {held first second kept : List Request} (h : Keeps held (first ++ second) kept) :
    ∃ early late, kept = early ++ late ∧ Keeps held first early ∧ Keeps (held ++ early) second late := by
  induction first generalizing held kept with
  | nil => exact ⟨[], kept, rfl, .done, by rwa [List.append_nil]⟩
  | cons r rest ih =>
    cases h with
    | keep hFits hRest =>
      obtain ⟨early, late, rfl, hEarly, hLate⟩ := ih hRest
      refine ⟨r :: early, late, rfl, .keep hFits hEarly, ?_⟩
      rwa [List.append_cons]
    | skip hClash hRest =>
      obtain ⟨early, late, rfl, hEarly, hLate⟩ := ih hRest
      exact ⟨early, late, rfl, .skip hClash hEarly, hLate⟩

end Keeps

namespace Span

/-! ## The interval of some inequalities -/

/-- Narrows the interval by an inequality, whatever becomes of it. -/
def tighten (s : Span) (r : Request) : Span :=
  match r.relation with
  | .equal => s
  | .greaterOrEqual => s.raise r.origin
  | .lessOrEqual => s.cap r.origin

/-- The interval that some inequalities leave. -/
def of (requests : List Request) : Span := requests.foldl tighten ⟨none, none⟩

theorem of_append (requests more : List Request) : of (requests ++ more) = more.foldl tighten (of requests) :=
  List.foldl_append

theorem of_concat (requests : List Request) (r : Request) : of (requests ++ [r]) = (of requests).tighten r :=
  of_append requests [r]

theorem contains_tighten {s : Span} {r : Request} {v : Int32} (hIneq : r.relation ≠ .equal) :
    (s.tighten r).Contains v ↔ s.Contains v ∧ r.MetBy v := by
  obtain ⟨relation, priority, origin⟩ := r
  cases relation with
  | equal => exact absurd rfl hIneq
  | greaterOrEqual =>
    have hLower := @lower_le_raise s origin v
    exact (and_congr_left' hLower).trans and_right_comm
  | lessOrEqual =>
    have hUpper := @le_upper_cap s origin v
    exact (and_congr_right' hUpper).trans and_assoc.symm

/-- An inequality leaves an inhabited interval inhabited unless it crosses the end that it does not move. -/
theorem inhabited_tighten {s : Span} (h : s.Inhabited) (r : Request) :
    (s.tighten r).Inhabited ↔ (r.relation = .greaterOrEqual → ∀ u ∈ s.upper, r.origin ≤ u) ∧
      (r.relation = .lessOrEqual → ∀ l ∈ s.lower, l ≤ r.origin) := by
  obtain ⟨relation, priority, origin⟩ := r
  constructor
  · -- any origin that is left lies between the two
    intro hLeft
    have hInside := contains_clamp hLeft 0
    refine ⟨fun hRelation u hu => ?_, fun hRelation l hl => ?_⟩
    · obtain rfl : relation = .greaterOrEqual := hRelation
      obtain ⟨hOld, hMet⟩ := (contains_tighten Relation.noConfusion).mp hInside
      exact Int32.le_trans hMet (hOld.2 u hu)
    · obtain rfl : relation = .lessOrEqual := hRelation
      obtain ⟨hOld, hMet⟩ := (contains_tighten Relation.noConfusion).mp hInside
      exact Int32.le_trans (hOld.1 l hl) hMet
  · rintro ⟨hBelow, hAbove⟩
    have hWhole : Within s s := ⟨h, fun _ hv => hv⟩
    cases relation with
    | equal => exact h
    | greaterOrEqual => exact (within_raise hWhole (hBelow rfl)).inhabited
    | lessOrEqual => exact (within_cap hWhole (hAbove rfl)).inhabited

theorem contains_of {requests : List Request} {v : Int32} (hIneq : ∀ r ∈ requests, r.relation ≠ .equal) :
    (of requests).Contains v ↔ ∀ r ∈ requests, r.MetBy v := by
  -- from the last request backwards, since each one narrows what those before it have left
  induction requests using List.reverseRecOn with
  | nil => simp [of, Contains]
  | append_singleton rest r ih =>
    rw [List.forall_mem_append, List.forall_mem_singleton] at hIneq
    rw [of_concat, contains_tighten hIneq.2, ih hIneq.1, List.forall_mem_append, List.forall_mem_singleton]

theorem inhabited_of {requests : List Request} (hIneq : ∀ r ∈ requests, r.relation ≠ .equal) :
    (of requests).Inhabited ↔ Compatible requests := by
  constructor
  · intro h
    exact ⟨_, (contains_of hIneq).mp (contains_clamp h 0)⟩
  · rintro ⟨v, hMet⟩
    exact ((contains_of hIneq).mpr hMet).inhabited

theorem lower_of {requests : List Request} {l : Int32} (h : (of requests).lower = some l) :
    ∃ r ∈ requests, r.relation = .greaterOrEqual ∧ r.origin = l := by
  induction requests using List.reverseRecOn with
  | nil => cases h
  | append_singleton rest r ih =>
    rw [of_concat] at h
    have hEarlier : (of rest).lower = some l →
        ∃ q ∈ rest ++ [r], q.relation = .greaterOrEqual ∧ q.origin = l := by
      intro hOld
      obtain ⟨q, hq, hAsks⟩ := ih hOld
      exact ⟨q, List.mem_append_left [r] hq, hAsks⟩
    obtain ⟨relation, priority, origin⟩ := r
    cases relation with
    | greaterOrEqual =>
      rcases lower_raise h with hOld | rfl
      · exact hEarlier hOld
      · exact ⟨_, List.mem_append_right rest (List.mem_singleton_self _), rfl, rfl⟩
    | equal => exact hEarlier h
    | lessOrEqual => exact hEarlier h

theorem upper_of {requests : List Request} {u : Int32} (h : (of requests).upper = some u) :
    ∃ r ∈ requests, r.relation = .lessOrEqual ∧ r.origin = u := by
  induction requests using List.reverseRecOn with
  | nil => cases h
  | append_singleton rest r ih =>
    rw [of_concat] at h
    have hEarlier : (of rest).upper = some u →
        ∃ q ∈ rest ++ [r], q.relation = .lessOrEqual ∧ q.origin = u := by
      intro hOld
      obtain ⟨q, hq, hAsks⟩ := ih hOld
      exact ⟨q, List.mem_append_left [r] hq, hAsks⟩
    obtain ⟨relation, priority, origin⟩ := r
    cases relation with
    | lessOrEqual =>
      rcases upper_cap h with hOld | rfl
      · exact hEarlier hOld
      · exact ⟨_, List.mem_append_right rest (List.mem_singleton_self _), rfl, rfl⟩
    | equal => exact hEarlier h
    | greaterOrEqual => exact hEarlier h

/-- An end that is open was asked for by nobody. -/
theorem open_of {requests : List Request} :
    ((of requests).lower = none → ∀ r ∈ requests, r.relation ≠ .greaterOrEqual) ∧
      ((of requests).upper = none → ∀ r ∈ requests, r.relation ≠ .lessOrEqual) := by
  induction requests using List.reverseRecOn with
  | nil => exact ⟨fun _ r hr => absurd hr List.not_mem_nil, fun _ r hr => absurd hr List.not_mem_nil⟩
  | append_singleton rest r ih =>
    rw [of_concat, List.forall_mem_append, List.forall_mem_append, List.forall_mem_singleton, List.forall_mem_singleton]
    obtain ⟨relation, priority, origin⟩ := r
    cases relation with
    | equal => exact ⟨fun h => ⟨ih.1 h, Relation.noConfusion⟩, fun h => ⟨ih.2 h, Relation.noConfusion⟩⟩
    | greaterOrEqual => exact ⟨fun h => absurd h (Option.some_ne_none _), fun h => ⟨ih.2 h, Relation.noConfusion⟩⟩
    | lessOrEqual => exact ⟨fun h => ⟨ih.1 h, Relation.noConfusion⟩, fun h => absurd h (Option.some_ne_none _)⟩

/-- An interval without an end was left by no inequality. -/
theorem eq_nil_of_open {requests : List Request} (hIneq : ∀ r ∈ requests, r.relation ≠ .equal)
    (hLower : (of requests).lower = none) (hUpper : (of requests).upper = none) : requests = [] := by
  refine List.eq_nil_iff_forall_not_mem.mpr fun r hr => ?_
  cases hRelation : r.relation with
  | equal => exact hIneq r hr hRelation
  | greaterOrEqual => exact open_of.1 hLower r hr hRelation
  | lessOrEqual => exact open_of.2 hUpper r hr hRelation

/-! ## Low inequalities -/

theorem ofRequired_eq (requests : List Request) : ofRequired requests = of (inequalities .required requests) := by
  have hStep : (fun (s : Span) (r : Request) =>
      if (r.priority = .required && r.relation ≠ .equal) = true then s.tighten r else s) = require := by
    funext s r
    obtain ⟨relation, priority, origin⟩ := r
    cases priority <;> cases relation <;> rfl
  rw [of, inequalities, List.foldl_filter, hStep]
  rfl

theorem narrow_inequalities (s : Span) (requests : List Request) :
    s.narrow requests = s.narrow (inequalities .low requests) := by
  have hStep : (fun (s : Span) (r : Request) =>
      if (r.priority = .low && r.relation ≠ .equal) = true then s.prefer r else s) = prefer := by
    funext s r
    obtain ⟨relation, priority, origin⟩ := r
    cases priority <;> cases relation <;> rfl
  rw [narrow, narrow, inequalities, List.foldl_filter, hStep]

/-- The solver looks at one end only, but takes an inequality exactly if the interval stays inhabited. -/
theorem prefer_fits {s : Span} {r : Request} (h : s.Inhabited) (hLow : r.priority = .low)
    (hFits : (s.tighten r).Inhabited) : s.prefer r = s.tighten r := by
  obtain ⟨hBelow, hAbove⟩ := (inhabited_tighten h r).mp hFits
  obtain ⟨relation, priority, origin⟩ := r
  obtain rfl : priority = .low := hLow
  cases relation with
  | equal => rfl
  | greaterOrEqual =>
    have hEnd : s.upper.all (origin ≤ ·) = true :=
      (Option.all_eq_true ..).mpr fun u hu => decide_eq_true (hBelow rfl u hu)
    exact if_pos hEnd
  | lessOrEqual =>
    have hEnd : s.lower.all (· ≤ origin) = true :=
      (Option.all_eq_true ..).mpr fun l hl => decide_eq_true (hAbove rfl l hl)
    exact if_pos hEnd

theorem prefer_clash {s : Span} {r : Request} (h : s.Inhabited) (hClash : ¬ (s.tighten r).Inhabited) :
    s.prefer r = s := by
  obtain ⟨relation, priority, origin⟩ := r
  rw [inhabited_tighten h] at hClash
  cases priority with
  | required => rfl
  | low =>
    cases relation with
    | equal => rfl
    | greaterOrEqual =>
      refine if_neg fun hEnd => hClash ⟨fun _ u hu => ?_, Relation.noConfusion⟩
      exact of_decide_eq_true ((Option.all_eq_true ..).mp hEnd u hu)
    | lessOrEqual =>
      refine if_neg fun hEnd => hClash ⟨Relation.noConfusion, fun _ l hl => ?_⟩
      exact of_decide_eq_true ((Option.all_eq_true ..).mp hEnd l hl)

/-- Low inequalities leave the interval of what was held before and of those that are kept. -/
theorem narrow_of {held offered kept : List Request} (h : Keeps held offered kept)
    (hHeld : ∀ r ∈ held, r.relation ≠ .equal) (hOffered : ∀ r ∈ offered, r.priority = .low ∧ r.relation ≠ .equal)
    (hCompatible : Compatible held) :
    (of held).narrow offered = of (held ++ kept) ∧ Compatible (held ++ kept) := by
  -- the invariant: the interval so far is that of the requests that are held, and they are compatible
  induction h with
  | done =>
    rw [List.append_nil]
    exact ⟨rfl, hCompatible⟩
  | @keep held rest kept r hFits hRest ih =>
    obtain ⟨⟨hLow, hIneq⟩, hLater⟩ := List.forall_mem_cons.mp hOffered
    have hMore : ∀ q ∈ held ++ [r], q.relation ≠ .equal := by
      rw [List.forall_mem_append, List.forall_mem_singleton]
      exact ⟨hHeld, hIneq⟩
    have hLeft : ((of held).tighten r).Inhabited := by
      rw [← of_concat, inhabited_of hMore]
      exact hFits
    have hStep : (of held).prefer r = of (held ++ [r]) := by
      rw [of_concat, prefer_fits ((inhabited_of hHeld).mpr hCompatible) hLow hLeft]
    have hNext := ih hMore hLater hFits
    rw [← List.append_cons] at hNext
    refine ⟨?_, hNext.2⟩
    rw [narrow, List.foldl_cons, hStep]
    exact hNext.1
  | @skip held rest kept r hClash hRest ih =>
    obtain ⟨⟨hLow, hIneq⟩, hLater⟩ := List.forall_mem_cons.mp hOffered
    have hMore : ∀ q ∈ held ++ [r], q.relation ≠ .equal := by
      rw [List.forall_mem_append, List.forall_mem_singleton]
      exact ⟨hHeld, hIneq⟩
    have hEmpty : ¬ ((of held).tighten r).Inhabited := by
      rw [← of_concat, inhabited_of hMore]
      exact hClash
    rw [narrow, List.foldl_cons, prefer_clash ((inhabited_of hHeld).mpr hCompatible) hEmpty]
    exact ih hHeld hLater hCompatible

/-- An origin that is moved into an interval goes to the nearest place in it. -/
theorem clamp_nearest {s : Span} (h : s.Inhabited) {v : Int32} (hInside : s.Contains v) (asked : Int32)
    (hOther : v ≠ s.clamp asked) :
    ((s.clamp asked).toInt - asked.toInt).natAbs < (v.toInt - asked.toInt).natAbs := by
  obtain ⟨lower, upper⟩ := s
  obtain ⟨hLower, hUpper⟩ := hInside
  rw [Ne, ← Int32.toInt_inj] at hOther
  cases lower with
  | none =>
    cases upper with
    | none =>
      simp only [clamp] at hOther ⊢
      omega
    | some u =>
      have hBelow := Int32.le_iff_toInt_le.mp (hUpper u rfl)
      simp only [clamp, toInt_min] at hOther ⊢
      omega
  | some l =>
    have hAbove := Int32.le_iff_toInt_le.mp (hLower l rfl)
    cases upper with
    | none =>
      simp only [clamp, toInt_max] at hOther ⊢
      omega
    | some u =>
      have hBelow := Int32.le_iff_toInt_le.mp (hUpper u rfl)
      have hEnds := Int32.le_iff_toInt_le.mp (h l rfl u rfl)
      simp only [clamp, toInt_min, toInt_max] at hOther ⊢
      omega

end Span

/-! ## The origin that is chosen -/

theorem relation_of_mem {priority : Priority} {requests kept : List Request}
    (hKept : ∀ r ∈ kept, r ∈ inequalities .low requests) :
    ∀ r ∈ inequalities priority requests ++ kept, r.relation ≠ .equal := by
  intro r hr
  rcases List.mem_append.mp hr with hHeld | hLow
  · exact (mem_inequalities.mp hHeld).2.2
  · exact (mem_inequalities.mp (hKept r hLow)).2.2

theorem satisfiable_iff_compatible {requests : List Request} :
    Satisfiable requests ↔ Compatible (inequalities .required requests) := by
  rw [satisfiable_iff, Span.ofRequired_eq]
  exact Span.inhabited_of fun r hr => (mem_inequalities.mp hr).2.2

/-- Where nothing pins the origin, it is chosen in the interval of the required inequalities and those kept. -/
theorem settle_open {requests kept : List Request} (hSat : Satisfiable requests)
    (hUnpinned : firstEqual .required requests = none)
    (hKeeps : Keeps (inequalities .required requests) (inequalities .low requests) kept) :
    (Span.of (inequalities .required requests ++ kept)).Inhabited ∧
      settle requests = match firstEqual .low requests with
        | some asked => (Span.of (inequalities .required requests ++ kept)).clamp asked
        | none => ((Span.of (inequalities .required requests ++ kept)).lower <|>
            (Span.of (inequalities .required requests ++ kept)).upper).getD 0 := by
  obtain ⟨hNarrow, hLeft⟩ := Span.narrow_of hKeeps (fun r hr => (mem_inequalities.mp hr).2.2)
    (fun r hr => (mem_inequalities.mp hr).2) (satisfiable_iff_compatible.mp hSat)
  refine ⟨(Span.inhabited_of (relation_of_mem fun r => hKeeps.mem)).mpr hLeft, ?_⟩
  have hSpan : (Span.ofRequired requests).narrow requests = Span.of (inequalities .required requests ++ kept) := by
    rw [Span.narrow_inequalities, Span.ofRequired_eq, hNarrow]
  -- the solver clamps into what its second pass has left, which is the interval of all that is kept
  rw [settle_of_inhabited (satisfiable_iff.mp hSat)]
  cases hLow : firstEqual .low requests with
  | some asked => simp only [settle.place, hUnpinned, hLow, hSpan]
  | none => simp only [settle.place, hUnpinned, hLow, hSpan]

/-- The end of an interval that an item without a preference is put to: the lower one, else the upper one, else zero. -/
inductive TakesEnd (requests : List Request) : Int32 → Prop
  | lower {r : Request} (hMem : r ∈ requests) (hRelation : r.relation = .greaterOrEqual)
      (hGreatest : ∀ q ∈ requests, q.relation = .greaterOrEqual → q.origin ≤ r.origin) : TakesEnd requests r.origin
  | upper {r : Request} (hOpen : ∀ q ∈ requests, q.relation ≠ .greaterOrEqual) (hMem : r ∈ requests)
      (hRelation : r.relation = .lessOrEqual)
      (hLeast : ∀ q ∈ requests, q.relation = .lessOrEqual → r.origin ≤ q.origin) : TakesEnd requests r.origin
  | zero (hNone : requests = []) : TakesEnd requests 0

theorem lower_le_origin {requests : List Request} {v : Int32} (hMet : ∀ r ∈ requests, r.MetBy v) :
    ∀ q ∈ requests, q.relation = .greaterOrEqual → q.origin ≤ v := by
  intro q hq hRelation
  have hMetBy := hMet q hq
  rw [Request.MetBy, hRelation] at hMetBy
  exact hMetBy

theorem origin_le_upper {requests : List Request} {v : Int32} (hMet : ∀ r ∈ requests, r.MetBy v) :
    ∀ q ∈ requests, q.relation = .lessOrEqual → v ≤ q.origin := by
  intro q hq hRelation
  have hMetBy := hMet q hq
  rw [Request.MetBy, hRelation] at hMetBy
  exact hMetBy

theorem takesEnd_of {requests : List Request} (hIneq : ∀ r ∈ requests, r.relation ≠ .equal)
    (hInhabited : (Span.of requests).Inhabited) :
    TakesEnd requests (((Span.of requests).lower <|> (Span.of requests).upper).getD 0) := by
  have hMet := (Span.contains_of hIneq).mp (Span.contains_firstEnd hInhabited)
  -- an end of the interval was asked for, and an open one by nobody
  cases hLower : (Span.of requests).lower with
  | some l =>
    rw [hLower] at hMet
    obtain ⟨r, hr, hRelation, rfl⟩ := Span.lower_of hLower
    exact .lower hr hRelation (lower_le_origin hMet)
  | none =>
    have hOpen := Span.open_of.1 hLower
    cases hUpper : (Span.of requests).upper with
    | some u =>
      rw [hLower, hUpper] at hMet
      obtain ⟨r, hr, hRelation, rfl⟩ := Span.upper_of hUpper
      exact .upper hOpen hr hRelation (origin_le_upper hMet)
    | none => exact .zero (Span.eq_nil_of_open hIneq hLower hUpper)

/-! ## What a solved item satisfies -/

/-- The inequalities of an axis at a priority, in order, as the origins that they ask for. -/
def Context.inequalities (ctx : Context) (constraints : List Constraint) (size : CellSize) (axis : Axis)
    (priority : Priority) : List Request :=
  Layout.inequalities priority (ctx.requests constraints axis (size.extent axis))

/-- What the low constraints of an axis make of an item that was solved, if these low inequalities are kept. -/
structure Greedy (ctx : Context) (constraints : List Constraint) (b : Bounds) (axis : Axis) (kept : List Request) :
    Prop where
  /-- The low inequalities that are kept are those of the greedy choice. -/
  keeps : Keeps (ctx.inequalities constraints b.size axis .required) (ctx.inequalities constraints b.size axis .low) kept
  only : ∀ other, Keeps (ctx.inequalities constraints b.size axis .required)
    (ctx.inequalities constraints b.size axis .low) other → other = kept
  /-- They hold, and so do the required inequalities. -/
  met : ∀ r ∈ ctx.inequalities constraints b.size axis .required ++ kept, r.MetBy (b.origin axis)
  /-- Any low inequality holds exactly if it can hold together with the required ones and those kept before it. -/
  chosen : ∀ before r after, ctx.inequalities constraints b.size axis .low = before ++ r :: after →
    ∃ early late, kept = early ++ late ∧ Keeps (ctx.inequalities constraints b.size axis .required) before early ∧
      (r.MetBy (b.origin axis) ↔ Compatible (ctx.inequalities constraints b.size axis .required ++ early ++ [r]))
  /-- The first low equality is missed by less than at any other origin that is left. -/
  nearest : ∀ c, constraints.find? (·.isEqualityOn axis .low) = some c →
    ∀ v, (∀ r ∈ ctx.inequalities constraints b.size axis .required ++ kept, r.MetBy v) → v ≠ b.origin axis →
      ((b.origin axis).toInt - (ctx.asked (b.size.extent axis) c).origin.toInt).natAbs <
        (v.toInt - (ctx.asked (b.size.extent axis) c).origin.toInt).natAbs
  /-- It holds if its origin is left, also at the edge unless the origin is cut at the least coordinate. -/
  equal : ∀ c, constraints.find? (·.isEqualityOn axis .low) = some c →
    (∀ r ∈ ctx.inequalities constraints b.size axis .required ++ kept,
      r.MetBy (ctx.asked (b.size.extent axis) c).origin) →
    b.origin axis = (ctx.asked (b.size.extent axis) c).origin ∧ ∀ target, ctx.target c = .ok target →
      -0x80000000 + (c.edge.shift (b.size.extent axis) : Int) ≤ target.toInt → b.edge c.edge = target
  /-- Without a low equality the item goes to an end of what is left. -/
  ends : constraints.find? (·.isEqualityOn axis .low) = none →
    TakesEnd (ctx.inequalities constraints b.size axis .required ++ kept) (b.origin axis)

section Solved

variable {ctx : Context} {constraints : List Constraint} {b : Bounds} {axis : Axis}

theorem unpinned (hNone : ∀ c ∈ constraints, c.isRequiredOn axis = true → c.relation ≠ .equal) (extent : UInt16) :
    firstEqual .required (ctx.requests constraints axis extent) = none := by
  rw [firstEqual_requests, Option.map_eq_none_iff, List.find?_eq_none]
  intro c hc hEqual
  rw [Bool.and_eq_true, decide_eq_true_eq] at hEqual
  exact hNone c hc hEqual.1 hEqual.2

theorem greedy_of_settled (hAgrees : Satisfiable (ctx.requests constraints axis (b.size.extent axis)))
    (hNone : ∀ c ∈ constraints, c.isRequiredOn axis = true → c.relation ≠ .equal)
    (hOrigin : b.origin axis = settle (ctx.requests constraints axis (b.size.extent axis))) :
    ∃ kept, Greedy ctx constraints b axis kept := by
  obtain ⟨kept, hKeeps⟩ := Keeps.exists_kept (ctx.inequalities constraints b.size axis .required)
    (ctx.inequalities constraints b.size axis .low)
  have hIneq : ∀ r ∈ ctx.inequalities constraints b.size axis .required ++ kept, r.relation ≠ .equal :=
    relation_of_mem fun r => hKeeps.mem
  obtain ⟨hInhabited, hChoice⟩ := settle_open hAgrees (unpinned hNone _) hKeeps
  rw [← hOrigin, firstEqual_asked] at hChoice
  change (Span.of (ctx.inequalities constraints b.size axis .required ++ kept)).Inhabited at hInhabited
  -- whichever way the origin is chosen, it lies in the interval that is left
  have hInside : (Span.of (ctx.inequalities constraints b.size axis .required ++ kept)).Contains (b.origin axis) := by
    rw [hChoice]
    split
    · exact Span.contains_clamp hInhabited _
    · exact Span.contains_firstEnd hInhabited
  have hMet := (Span.contains_of hIneq).mp hInside
  refine ⟨kept, hKeeps, fun other hOther => hKeeps.unique hOther, hMet, ?_, ?_, ?_, ?_⟩
  · intro before r after hSplit
    rw [hSplit] at hKeeps
    obtain ⟨early, late, rfl, hEarly, hLate⟩ := hKeeps.append_inv
    refine ⟨early, late, rfl, hEarly, fun hHolds => ⟨b.origin axis, ?_⟩, fun hFits => ?_⟩
    · -- the origin itself meets all of them
      intro q hq
      rcases List.mem_append.mp hq with hHeld | hNew
      · refine hMet q ?_
        rw [← List.append_assoc]
        exact List.mem_append_left late hHeld
      · rwa [List.mem_singleton.mp hNew]
    · cases hLate with
      | keep hFits' hRest => exact hMet r (List.mem_append_right _ (List.mem_append_right early List.mem_cons_self))
      | skip hClash hRest => exact absurd hFits hClash
  · intro c hFirst v hLeft hOther
    rw [hFirst] at hChoice
    rw [hChoice] at hOther ⊢
    exact Span.clamp_nearest hInhabited ((Span.contains_of hIneq).mpr hLeft) _ hOther
  · -- clamping leaves an origin alone that is in the interval already
    intro c hFirst hLeft
    rw [hFirst] at hChoice
    have hExact : b.origin axis = (ctx.asked (b.size.extent axis) c).origin :=
      hChoice.trans (Span.clamp_of_contains ((Span.contains_of hIneq).mpr hLeft))
    refine ⟨hExact, fun target hTarget hRoom => ?_⟩
    have hOn := List.find?_some hFirst
    rw [Constraint.isEqualityOn, Bool.and_eq_true, Bool.and_eq_true, decide_eq_true_eq] at hOn
    obtain ⟨⟨rfl, -⟩, -⟩ := hOn
    rw [asked_eq _ hTarget] at hExact
    exact edge_eq_target hExact hRoom
  · intro hFirst
    rw [hFirst] at hChoice
    rw [hChoice]
    exact takesEnd_of hIneq hInhabited

end Solved

/--
**Low constraints are chosen greedily.** Where the required inequalities of an axis can hold together and no required
equality pins the item, each low inequality holds exactly if it can hold together with the required ones and with the
low ones before it that are kept. The item then takes the place nearest to the first low equality among those that are
left; without one it goes to their lower end, else to their upper end, else to zero.
-/
theorem solve_greedy (ctx : Context) (constraints : List Constraint) (size : CellSize)
    (hResolves : ctx.Resolves constraints) :
    ∃ b, solve constraints size ctx = .ok b ∧ b.size = size ∧ ∀ axis, ctx.Agrees constraints size axis →
      (∀ c ∈ constraints, c.isRequiredOn axis = true → c.relation ≠ .equal) →
        ∃ kept, Greedy ctx constraints b axis kept := by
  obtain ⟨b, hSolved, rfl, hOrigin⟩ := solve_ok size hResolves
  refine ⟨b, hSolved, rfl, fun axis hAgrees hNone => ?_⟩
  exact greedy_of_settled ((agrees_iff hResolves).mp hAgrees) hNone (hOrigin axis)

/-- An item that is too wide for two low limits keeps the first of them, and its centre comes as near to the target as
that limit allows. -/
theorem greedy_clash :
    let ctx : Context := ⟨⟨0, 0, 80, 24⟩, .empty, some ⟨10, 0, 4, 2⟩⟩
    let constraints : List Constraint :=
      [(Constraint.atLeast .left (.bubble .left) 2).low, (Constraint.atMost .right (.bubble .right) (-2)).low,
        (Constraint.equal .centerX .absolute 0).low]
    ctx.Resolves constraints ∧ ctx.Agrees constraints ⟨3, 1⟩ .horizontal ∧
      (∀ c ∈ constraints, c.isRequiredOn .horizontal = true → c.relation ≠ .equal) ∧
      ∃ b, solve constraints ⟨3, 1⟩ ctx = .ok b ∧ b.x = 12 ∧
        Greedy ctx constraints b .horizontal [⟨.greaterOrEqual, .low, 12⟩] := by
  intro ctx constraints
  have hResolves : ctx.Resolves constraints := by
    intro c hc
    rcases List.mem_cons.mp hc with rfl | hc
    · exact ⟨10, by decide⟩
    rcases List.mem_cons.mp hc with rfl | hc
    · exact ⟨14, by decide⟩
    · rw [List.mem_singleton.mp hc]
      exact ⟨0, rfl⟩
  have hLow : ∀ c ∈ constraints, c.isRequiredOn .horizontal = false := by decide
  have hAgrees : ctx.Agrees constraints ⟨3, 1⟩ .horizontal := by
    rintro low high ⟨c, hc, hOn, -⟩ -
    exact absurd hOn (by rw [hLow c hc]; exact Bool.false_ne_true)
  have hNone : ∀ c ∈ constraints, c.isRequiredOn .horizontal = true → c.relation ≠ .equal :=
    fun c hc hOn => absurd hOn (by rw [hLow c hc]; exact Bool.false_ne_true)
  obtain ⟨b, hSolved, hSize, hAxes⟩ := solve_greedy ctx constraints ⟨3, 1⟩ hResolves
  obtain ⟨kept, hGreedy⟩ := hAxes .horizontal hAgrees hNone
  obtain rfl : b = ⟨12, 0, 3, 1⟩ := by
    have hValue : solve constraints ⟨3, 1⟩ ctx = .ok ⟨12, 0, 3, 1⟩ := by rfl
    exact Except.ok.inj (hSolved.symm.trans hValue)
  -- the second limit would have the item end at 12, where the first one lets it begin
  have hKeeps : Keeps (ctx.inequalities constraints ⟨3, 1⟩ .horizontal .required)
      (ctx.inequalities constraints ⟨3, 1⟩ .horizontal .low) [⟨.greaterOrEqual, .low, 12⟩] := by
    show Keeps [] [⟨.greaterOrEqual, .low, 12⟩, ⟨.lessOrEqual, .low, 9⟩] _
    refine .keep ⟨12, fun r hr => ?_⟩ (.skip (fun ⟨v, hMet⟩ => ?_) .done)
    · rw [List.mem_singleton.mp hr]
      exact Int32.le_refl 12
    · have hFrom : (12 : Int32) ≤ v := hMet ⟨.greaterOrEqual, .low, 12⟩ List.mem_cons_self
      have hTo : v ≤ 9 := hMet ⟨.lessOrEqual, .low, 9⟩ (List.mem_cons_of_mem _ List.mem_cons_self)
      exact absurd (Int32.le_trans hFrom hTo) (by decide)
  obtain rfl := hGreedy.only _ hKeeps
  exact ⟨hResolves, hAgrees, hNone, _, hSolved, rfl, hGreedy⟩

end GuidedTour.Layout
