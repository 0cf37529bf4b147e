import GuidedTour.Proofs.Layout.Greedy
import Mathlib.Data.List.Perm.Basic

/-!
# The order of constraints

A list of constraints has an order, but most of it does not matter. The required inequalities of an axis narrow its
interval in any order. Of equalities only the first one of a priority counts, and low inequalities are asked in turn
because one that is kept may shut out a later one; if no inequality shuts out another, their order does not matter
either. The two axes never see each other.

Main results:

* `of_perm` - inequalities leave the same interval in any order.
* `settle_perm` - the origin that is chosen depends on the order within equalities and among rival low inequalities.
* `solve_reordered` - which changes to a list of constraints leave a solved item where it is.
-/

namespace GuidedTour.Layout

namespace Span

/-! ## Intervals in any order -/

theorem raise_raise (s : Span) (first second : Int32) :
    (s.raise first).raise second = (s.raise second).raise first := by
  obtain ⟨lower, upper⟩ := s
  cases lower with
  | none =>
    have hMax : max first second = max second first := by
      rw [← Int32.toInt_inj, toInt_max, toInt_max]
      omega
    simp only [raise, hMax]
  | some l =>
    have hMax : max (max l first) second = max (max l second) first := by
      simp only [← Int32.toInt_inj, toInt_max]
      omega
    simp only [raise, hMax]

theorem cap_cap (s : Span) (first second : Int32) : (s.cap first).cap second = (s.cap second).cap first := by
  obtain ⟨lower, upper⟩ := s
  cases upper with
  | none =>
    have hMin : min first second = min second first := by
      rw [← Int32.toInt_inj, toInt_min, toInt_min]
      omega
    simp only [cap, hMin]
  | some u =>
    have hMin : min (min u first) second = min (min u second) first := by
      simp only [← Int32.toInt_inj, toInt_min]
      omega
    simp only [cap, hMin]

theorem tighten_comm (s : Span) (first second : Request) :
    (s.tighten first).tighten second = (s.tighten second).tighten first := by
  obtain ⟨relation, priority, origin⟩ := first
  obtain ⟨relation', priority', origin'⟩ := second
  -- the two ends do not see each other
  cases relation <;> cases relation' <;> first | rfl | exact raise_raise s _ _ | exact cap_cap s _ _

theorem of_perm {requests others : List Request} (h : others.Perm requests) : of others = of requests :=
  h.foldl_eq' (fun first _ second _ s => tighten_comm s first second) _

end Span

/-! ## The origin that is chosen -/

theorem Compatible.mono {requests more : List Request} (h : Compatible more) (hSubset : requests ⊆ more) :
    Compatible requests := by
  obtain ⟨v, hMet⟩ := h
  exact ⟨v, fun r hr => hMet r (hSubset hr)⟩

/-- If nothing shuts out anything, everything is kept. -/
theorem Keeps.all {held offered : List Request} (h : Compatible (held ++ offered)) : Keeps held offered offered := by
  induction offered generalizing held with
  | nil => exact .done
  | cons r rest ih =>
    rw [List.append_cons] at h
    exact .keep (h.mono (List.subset_append_left _ _)) (ih h)

/-- Low inequalities that can all hold together with the required ones leave the interval of them all. -/
theorem narrow_all {requests : List Request}
    (h : Compatible (inequalities .required requests ++ inequalities .low requests)) :
    (Span.ofRequired requests).narrow requests =
      Span.of (inequalities .required requests ++ inequalities .low requests) := by
  rw [Span.narrow_inequalities, Span.ofRequired_eq]
  exact (Span.narrow_of (.all h) (fun r hr => (mem_inequalities.mp hr).2.2) (fun r hr => (mem_inequalities.mp hr).2)
    (h.mono (List.subset_append_left _ _))).1

theorem settle_perm {requests others : List Request} (hPerm : others.Perm requests)
    (hFirst : ∀ priority, firstEqual priority others = firstEqual priority requests)
    (hLow : inequalities .low others = inequalities .low requests ∨
      Compatible (inequalities .required requests ++ inequalities .low requests)) :
    settle others = settle requests := by
  have hRequired : Span.ofRequired others = Span.ofRequired requests := by
    rw [Span.ofRequired_eq, Span.ofRequired_eq]
    exact Span.of_perm (hPerm.filter _)
  have hBoth : Satisfiable others ↔ Satisfiable requests := by rw [satisfiable_iff, satisfiable_iff, hRequired]
  by_cases hSat : Satisfiable requests
  · have hNarrow : (Span.ofRequired others).narrow others = (Span.ofRequired requests).narrow requests := by
      rcases hLow with hSame | hAll
      · rw [Span.narrow_inequalities, hSame, hRequired, ← Span.narrow_inequalities]
      · -- everything is kept on both sides
        have hEvery : (inequalities .required others ++ inequalities .low others).Perm
            (inequalities .required requests ++ inequalities .low requests) :=
          (hPerm.filter _).append (hPerm.filter _)
        rw [narrow_all hAll, narrow_all (hAll.mono hEvery.subset), Span.of_perm hEvery]
    rw [settle_of_inhabited (satisfiable_iff.mp hSat), settle_of_inhabited (satisfiable_iff.mp (hBoth.mpr hSat)),
      settle.place, settle.place, hFirst, hFirst, hNarrow, hRequired]
  · -- a conflict is decided by the required inequalities alone
    have hHere := settle_of_conflict hSat
    have hThere := settle_of_conflict (hBoth.not.mpr hSat)
    rw [hRequired, hHere] at hThere
    exact (Option.some.inj hThere).symm

/-! ## Lists of constraints -/

/-- Whether a constraint is an inequality of an axis at a priority. -/
def Constraint.isInequalityOn (c : Constraint) (axis : Axis) (priority : Priority) : Bool :=
  (c.axis = axis && c.priority = priority) && c.relation ≠ .equal

/-- The same constraints of an axis in another order that keeps what matters: the order of the equalities of each
priority, and that of the low inequalities unless all inequalities of the axis can hold together. -/
structure Reordered (ctx : Context) (size : CellSize) (axis : Axis) (constraints others : List Constraint) : Prop where
  equalities : ∀ priority, others.filter (·.isEqualityOn axis priority) =
    constraints.filter (·.isEqualityOn axis priority)
  inequalities : others.filter (·.isInequalityOn axis .low) = constraints.filter (·.isInequalityOn axis .low) ∨
    Compatible (ctx.inequalities constraints size axis .required ++ ctx.inequalities constraints size axis .low)

theorem inequalities_requests (ctx : Context) (constraints : List Constraint) (axis : Axis) (extent : UInt16)
    (priority : Priority) : inequalities priority (ctx.requests constraints axis extent) =
      (constraints.filter (·.isInequalityOn axis priority)).map (ctx.asked extent) := by
  unfold inequalities Context.requests
  rw [List.filter_map, List.filter_filter]
  congr 2
  funext c
  by_cases hAxis : c.axis = axis
  · simp [Context.asked, Constraint.isInequalityOn, hAxis]
    rfl
  · simp [Constraint.isInequalityOn, hAxis]

section Lists

variable {ctx : Context} {constraints others : List Constraint}

theorem Reordered.firstEqual {size : CellSize} {axis : Axis} (h : Reordered ctx size axis constraints others)
    (extent : UInt16) (priority : Priority) : firstEqual priority (ctx.requests others axis extent) =
      firstEqual priority (ctx.requests constraints axis extent) := by
  rw [firstEqual_asked, firstEqual_asked, ← List.head?_filter, ← List.head?_filter, h.equalities]

theorem Reordered.settle {size : CellSize} {axis : Axis} (h : Reordered ctx size axis constraints others)
    (hPerm : others.Perm constraints) : settle (ctx.requests others axis (size.extent axis)) =
      settle (ctx.requests constraints axis (size.extent axis)) := by
  have hRequests : (ctx.requests others axis (size.extent axis)).Perm
      (ctx.requests constraints axis (size.extent axis)) := (hPerm.filter _).map _
  refine settle_perm hRequests (h.firstEqual _) (h.inequalities.imp_left fun hSame => ?_)
  rw [inequalities_requests, inequalities_requests, hSame]

theorem requests_congr {axis : Axis} (hAxis : others.filter (·.axis = axis) = constraints.filter (·.axis = axis))
    (extent : UInt16) : ctx.requests others axis extent = ctx.requests constraints axis extent := by
  unfold Context.requests
  rw [hAxis]

end Lists

/--
**Only the order that matters.** A list of constraints whose references resolve may be reordered as `Reordered` allows
on each axis, and the item stays where it is. Whatever else is changed about the constraints of one axis, the other
axis keeps its origin.
-/
theorem solve_reordered (ctx : Context) (constraints : List Constraint) (size : CellSize)
    (hResolves : ctx.Resolves constraints) : ∃ b, solve constraints size ctx = .ok b ∧
      (∀ others, others.Perm constraints → (∀ axis, Reordered ctx size axis constraints others) →
        solve others size ctx = .ok b) ∧
      ∀ others axis, ctx.Resolves others → others.filter (·.axis = axis) = constraints.filter (·.axis = axis) →
        ∃ b', solve others size ctx = .ok b' ∧ b'.origin axis = b.origin axis := by
  obtain ⟨b, hSolved, rfl, hOrigin⟩ := solve_ok size hResolves
  refine ⟨b, hSolved, fun others hPerm hReordered => ?_, fun others axis hOthers hAxis => ?_⟩
  · have hThere : ctx.Resolves others := fun c hc => hResolves c (hPerm.subset hc)
    obtain ⟨b', hSolved', hSize, hOrigin'⟩ := solve_ok b.size hThere
    have hSame : ∀ axis, b'.origin axis = b.origin axis := by
      intro axis
      rw [hOrigin', hOrigin, (hReordered axis).settle hPerm]
    -- bounds are two origins and a size
    obtain ⟨x, y, width, height⟩ := b
    obtain ⟨x', y', width', height'⟩ := b'
    obtain rfl : x' = x := hSame .horizontal
    obtain rfl : y' = y := hSame .vertical
    cases hSize
    exact hSolved'
  · obtain ⟨b', hSolved', -, hOrigin'⟩ := solve_ok b.size hOthers
    exact ⟨b', hSolved', by rw [hOrigin', hOrigin, requests_congr hAxis]⟩

/-- Two low margins may be asked in either order, since the item has room between them. -/
theorem reordered_margins :
    let ctx : Context := .of ⟨0, 0, 80, 24⟩ .empty
    let left := (Constraint.atLeast .left (.container .left) 2).low
    let right := (Constraint.atMost .right (.container .right) (-2)).low
    let center := (Constraint.equal .centerX (.container .centerX) 0).low
    let top := Constraint.equal .top (.container .top) 3
    ctx.Resolves [left, right, center, top] ∧ [top, right, left, center].Perm [left, right, center, top] ∧
      (∀ axis, Reordered ctx ⟨20, 4⟩ axis [left, right, center, top] [top, right, left, center]) ∧
      solve [top, right, left, center] ⟨20, 4⟩ ctx = .ok ⟨30, 3, 20, 4⟩ := by
  intro ctx left right center top
  have hResolves : ctx.Resolves [left, right, center, top] := by
    intro c hc
    rcases List.mem_cons.mp hc with rfl | hc
    · exact ⟨0, by decide⟩
    rcases List.mem_cons.mp hc with rfl | hc
    · exact ⟨80, by decide⟩
    rcases List.mem_cons.mp hc with rfl | hc
    · exact ⟨40, by decide⟩
    · rw [List.mem_singleton.mp hc]
      exact ⟨0, by decide⟩
  have hPerm : [top, right, left, center].Perm [left, right, center, top] :=
    (List.perm_append_singleton top [right, left, center]).symm.trans (.swap left right [center, top])
  have hReordered : ∀ axis, Reordered ctx ⟨20, 4⟩ axis [left, right, center, top] [top, right, left, center] := by
    intro axis
    cases axis with
    | vertical => exact ⟨fun priority => by cases priority <;> rfl, .inl rfl⟩
    | horizontal =>
      -- the margins leave the centre free
      refine ⟨fun priority => by cases priority <;> rfl, .inr ⟨30, fun r hr => ?_⟩⟩
      rcases List.mem_cons.mp hr with rfl | hr
      · exact Int32.le_iff_toInt_le.mpr (by decide)
      · rw [List.mem_singleton.mp hr]
        exact Int32.le_iff_toInt_le.mpr (by decide)
  obtain ⟨b, hSolved, hSame, -⟩ := solve_reordered ctx [left, right, center, top] ⟨20, 4⟩ hResolves
  have hValue : solve [left, right, center, top] ⟨20, 4⟩ ctx = .ok ⟨30, 3, 20, 4⟩ := by
    decide +kernel
  obtain rfl : b = ⟨30, 3, 20, 4⟩ := Except.ok.inj (hSolved.symm.trans hValue)
  exact ⟨hResolves, hPerm, hReordered, hSame _ hPerm hReordered⟩

end GuidedTour.Layout
