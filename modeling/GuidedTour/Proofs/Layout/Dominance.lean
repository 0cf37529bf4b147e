import GuidedTour.Proofs.Layout.Span

/-!
# Required constraints dominate

A solved item is read back through its edges. Each axis keeps every required inequality as long as they can hold
together, then the first required equality, and only then looks at low constraints. Coordinates saturate at the ends
of 32 bits, so an origin and the edge that it was computed from are compared by `Int`, with the distance between the
two as a `shift`.

Main results:

* `solveAxis_eq` - an axis is solved by the origins that its constraints ask for.
* `target_le_edge` / `edge_le_target` / `edge_eq_target` - from origins back to edges.
* `solve_dominant` - what the required constraints of an axis make of a solved item.
-/

namespace GuidedTour

open Layout

/-- Where bounds begin on an axis. -/
def Bounds.origin (b : Bounds) : Axis → Int32
  | .horizontal => b.x
  | .vertical => b.y

/-- How far a size extends on an axis. -/
def CellSize.extent (s : CellSize) : Axis → UInt16
  | .horizontal => s.width
  | .vertical => s.height

namespace Layout

/-! ## Edges and origins -/

/-- How far an edge of an item lies behind its beginning. -/
def Edge.shift (e : Edge) (extent : UInt16) : Nat :=
  match e with
  | .left | .top => 0
  | .right | .bottom => extent.toNat
  | .centerX | .centerY => extent.toNat / 2

theorem Edge.shift_le (e : Edge) (extent : UInt16) : e.shift extent ≤ extent.toNat := by
  cases e <;> simp only [shift] <;> omega

theorem saturate_toInt (v : Int32) : saturate v.toInt = v := by
  have hLow := Int32.le_toInt v
  have hHigh := Int32.toInt_lt v
  rw [← Int32.toInt_inj, toInt_saturate]
  omega

theorem originFor_eq (e : Edge) (value : Int32) (extent : UInt16) :
    originFor e value extent = saturate (value.toInt - e.shift extent) := by
  have hStart : saturate (value.toInt - (0 : Nat)) = value := by
    rw [Int.natCast_zero, Int.sub_zero, saturate_toInt]
  cases e with
  | left => exact hStart.symm
  | top => exact hStart.symm
  | _ => rfl

theorem edge_eq (b : Bounds) (e : Edge) :
    b.edge e = saturate ((b.origin e.axis).toInt + e.shift (b.size.extent e.axis)) := by
  have hStart : ∀ v : Int32, saturate (v.toInt + (0 : Nat)) = v := by
    intro v
    rw [Int.natCast_zero, Int.add_zero, saturate_toInt]
  cases e with
  | left => exact (hStart b.x).symm
  | top => exact (hStart b.y).symm
  | _ => rfl

section Edges

variable {b : Bounds} {e : Edge} {target : Int32}

/-- An item that begins no earlier than asked has its edge no earlier than the target. -/
theorem target_le_edge (h : originFor e target (b.size.extent e.axis) ≤ b.origin e.axis) : target ≤ b.edge e := by
  have hHigh := Int32.toInt_lt target
  rw [originFor_eq, Int32.le_iff_toInt_le, toInt_saturate] at h
  rw [edge_eq, Int32.le_iff_toInt_le, toInt_saturate]
  omega

/-- An item that begins no later than asked has its edge no later than the target, unless the origin was cut. -/
theorem edge_le_target (h : b.origin e.axis ≤ originFor e target (b.size.extent e.axis))
    (hRoom : -0x80000000 + (e.shift (b.size.extent e.axis) : Int) ≤ target.toInt) : b.edge e ≤ target := by
  have hLow := Int32.le_toInt (b.origin e.axis)
  rw [originFor_eq, Int32.le_iff_toInt_le, toInt_saturate] at h
  rw [edge_eq, Int32.le_iff_toInt_le, toInt_saturate]
  omega

/-- An item that begins as asked has its edge at the target, unless the origin was cut. -/
theorem edge_eq_target (h : b.origin e.axis = originFor e target (b.size.extent e.axis))
    (hRoom : -0x80000000 + (e.shift (b.size.extent e.axis) : Int) ≤ target.toInt) : b.edge e = target := by
  have hHigh := Int32.toInt_lt target
  rw [edge_eq, h, originFor_eq, ← Int32.toInt_inj, toInt_saturate, toInt_saturate]
  omega

end Edges

/-! ## Targets and requests -/

/-- The coordinate that a constraint measures its edge against. -/
def Context.target (ctx : Context) (c : Constraint) : Except PlacementError Int32 := do
  let value ← ctx.resolve c.reference
  return saturate (value.toInt + c.constant.toInt)

/-- Every reference of some constraints resolves. -/
def Context.Resolves (ctx : Context) (constraints : List Constraint) : Prop :=
  ∀ c ∈ constraints, ∃ value, ctx.resolve c.reference = .ok value

/-- The request of a constraint; one whose reference does not resolve is measured from nothing. -/
def Context.asked (ctx : Context) (extent : UInt16) (c : Constraint) : Request :=
  ⟨c.relation, c.priority, originFor c.edge ((ctx.target c).toOption.getD 0) extent⟩

theorem request_eq {ctx : Context} {c : Constraint} (extent : UInt16) {value : Int32}
    (h : ctx.resolve c.reference = .ok value) : ctx.request extent c = .ok (ctx.asked extent c) := by
  unfold Context.request Context.asked Context.target
  rw [h]
  rfl

theorem asked_eq {ctx : Context} {c : Constraint} {target : Int32} (extent : UInt16) (h : ctx.target c = .ok target) :
    ctx.asked extent c = ⟨c.relation, c.priority, originFor c.edge target extent⟩ := by
  unfold Context.asked
  rw [h]
  rfl

theorem target_of_resolves {ctx : Context} {constraints : List Constraint} (h : ctx.Resolves constraints)
    {c : Constraint} (hc : c ∈ constraints) : ∃ target, ctx.target c = .ok target := by
  obtain ⟨value, hValue⟩ := h c hc
  refine ⟨saturate (value.toInt + c.constant.toInt), ?_⟩
  unfold Context.target
  rw [hValue]
  rfl

/-- The requests of an axis, in order. -/
def Context.requests (ctx : Context) (constraints : List Constraint) (axis : Axis) (extent : UInt16) : List Request :=
  (constraints.filter (·.axis = axis)).map (ctx.asked extent)

theorem mapM_request {ctx : Context} {constraints : List Constraint} (extent : UInt16)
    (h : ctx.Resolves constraints) :
    constraints.mapM (ctx.request extent) = .ok (constraints.map (ctx.asked extent)) := by
  -- a constraint that resolves never stops the traversal
  induction constraints with
  | nil => rfl
  | cons c rest ih =>
    obtain ⟨value, hValue⟩ := h c List.mem_cons_self
    have hRest := ih fun other hOther => h other (List.mem_cons_of_mem c hOther)
    rw [List.mapM_cons, request_eq extent hValue, hRest]
    rfl

theorem solveAxis_eq {ctx : Context} {constraints : List Constraint} (axis : Axis) (extent : UInt16)
    (h : ctx.Resolves constraints) :
    solveAxis constraints axis extent ctx = .ok (settle (ctx.requests constraints axis extent)) := by
  have hAxis : ctx.Resolves (constraints.filter (·.axis = axis)) := fun c hc => h c (List.mem_filter.mp hc).1
  unfold solveAxis
  rw [mapM_request extent hAxis]
  rfl

theorem solve_ok {ctx : Context} {constraints : List Constraint} (size : CellSize) (h : ctx.Resolves constraints) :
    ∃ b, solve constraints size ctx = .ok b ∧ b.size = size ∧
      ∀ axis, b.origin axis = settle (ctx.requests constraints axis (size.extent axis)) := by
  refine ⟨⟨settle (ctx.requests constraints .horizontal size.width),
    settle (ctx.requests constraints .vertical size.height), size.width, size.height⟩, ?_, rfl, ?_⟩
  · unfold solve
    rw [solveAxis_eq .horizontal size.width h, solveAxis_eq .vertical size.height h]
    rfl
  · intro axis
    cases axis <;> rfl

/-! ## What is required on an axis -/

/-- Whether a constraint is a required one of an axis. -/
def Constraint.isRequiredOn (c : Constraint) (axis : Axis) : Bool := c.axis = axis && c.priority = .required

/-- Some required constraint of the axis asks for an origin. -/
def Context.Asks (ctx : Context) (constraints : List Constraint) (size : CellSize) (axis : Axis)
    (relation : Relation) (origin : Int32) : Prop :=
  ∃ c ∈ constraints, c.isRequiredOn axis = true ∧ c.relation = relation ∧
    ∃ target, ctx.target c = .ok target ∧ originFor c.edge target (size.extent axis) = origin

/-- The required inequalities of an axis can hold together: no origin that is asked for at least exceeds one that is
asked for at most. -/
def Context.Agrees (ctx : Context) (constraints : List Constraint) (size : CellSize) (axis : Axis) : Prop :=
  ∀ low high, ctx.Asks constraints size axis .greaterOrEqual low →
    ctx.Asks constraints size axis .lessOrEqual high → low ≤ high

theorem isRequired_asked {ctx : Context} {extent : UInt16} {c : Constraint} {axis : Axis} {relation : Relation}
    (hAxis : c.axis = axis) :
    (ctx.asked extent c).IsRequired relation ↔ c.isRequiredOn axis = true ∧ c.relation = relation := by
  unfold Request.IsRequired Constraint.isRequiredOn
  simp [Context.asked, hAxis]

theorem asks_iff {ctx : Context} {constraints : List Constraint} {size : CellSize} {axis : Axis} {relation : Relation}
    {origin : Int32} (h : ctx.Resolves constraints) :
    ctx.Asks constraints size axis relation origin ↔
      ∃ r ∈ ctx.requests constraints axis (size.extent axis), r.IsRequired relation ∧ r.origin = origin := by
  constructor
  · rintro ⟨c, hc, hRequired, hRelation, target, hTarget, rfl⟩
    have hAxis : c.axis = axis := by
      rw [Constraint.isRequiredOn, Bool.and_eq_true] at hRequired
      exact of_decide_eq_true hRequired.1
    refine ⟨ctx.asked (size.extent axis) c, ?_, (isRequired_asked hAxis).mpr ⟨hRequired, hRelation⟩, ?_⟩
    · exact List.mem_map.mpr ⟨c, List.mem_filter.mpr ⟨hc, decide_eq_true hAxis⟩, rfl⟩
    · rw [asked_eq _ hTarget]
  · rintro ⟨r, hr, hRequired, rfl⟩
    obtain ⟨c, hc, rfl⟩ := List.mem_map.mp hr
    obtain ⟨hMem, hAxis⟩ := List.mem_filter.mp hc
    obtain ⟨target, hTarget⟩ := target_of_resolves h hMem
    obtain ⟨hOn, hRelation⟩ := (isRequired_asked (of_decide_eq_true hAxis)).mp hRequired
    refine ⟨c, hMem, hOn, hRelation, target, hTarget, ?_⟩
    rw [asked_eq _ hTarget]

theorem agrees_iff {ctx : Context} {constraints : List Constraint} {size : CellSize} {axis : Axis}
    (h : ctx.Resolves constraints) :
    ctx.Agrees constraints size axis ↔ Satisfiable (ctx.requests constraints axis (size.extent axis)) := by
  constructor
  · intro hAgrees r hr hAtLeast q hq hAtMost
    exact hAgrees r.origin q.origin ((asks_iff h).mpr ⟨r, hr, hAtLeast, rfl⟩) ((asks_iff h).mpr ⟨q, hq, hAtMost, rfl⟩)
  · intro hSat low high hLow hHigh
    obtain ⟨r, hr, hAtLeast, rfl⟩ := (asks_iff h).mp hLow
    obtain ⟨q, hq, hAtMost, rfl⟩ := (asks_iff h).mp hHigh
    exact hSat r hr hAtLeast q hq hAtMost

/-- Whether a constraint is an equality of an axis at a priority. -/
def Constraint.isEqualityOn (c : Constraint) (axis : Axis) (priority : Priority) : Bool :=
  (c.axis = axis && c.priority = priority) && c.relation = .equal

theorem firstEqual_asked (ctx : Context) (constraints : List Constraint) (axis : Axis) (extent : UInt16)
    (priority : Priority) : firstEqual priority (ctx.requests constraints axis extent) =
      (constraints.find? (·.isEqualityOn axis priority)).map fun c => (ctx.asked extent c).origin := by
  unfold firstEqual Context.requests
  rw [List.find?_map, List.find?_filter, Option.map_map]
  congr 2
  funext c
  by_cases hAxis : c.axis = axis
  · simp [Context.asked, Constraint.isEqualityOn, hAxis]
    rfl
  · simp [Constraint.isEqualityOn, hAxis]

theorem firstEqual_requests (ctx : Context) (constraints : List Constraint) (axis : Axis) (extent : UInt16) :
    firstEqual .required (ctx.requests constraints axis extent) =
      (constraints.find? fun c => c.isRequiredOn axis && c.relation = .equal).map fun c =>
        (ctx.asked extent c).origin :=
  firstEqual_asked ctx constraints axis extent .required

theorem required_requests (ctx : Context) (constraints : List Constraint) (axis : Axis) (extent : UInt16) :
    required (ctx.requests constraints axis extent) =
      (constraints.filter (·.isRequiredOn axis)).map (ctx.asked extent) := by
  unfold required Context.requests
  rw [List.filter_map, List.filter_filter]
  congr 2
  funext c
  by_cases hAxis : c.axis = axis
  · simp [Context.asked, Constraint.isRequiredOn, hAxis]
    rfl
  · simp [Constraint.isRequiredOn, hAxis]

/-! ## What a solved item satisfies -/

/-- What the required constraints of an axis make of an item that was solved. -/
structure Dominant (ctx : Context) (constraints : List Constraint) (b : Bounds) (axis : Axis) : Prop where
  /-- Required inequalities that can hold together all hold at the edges, one from above only if its origin is not
  cut at the least coordinate. -/
  atLeast : ctx.Agrees constraints b.size axis → ∀ c ∈ constraints, c.isRequiredOn axis = true →
    c.relation = .greaterOrEqual → ∀ target, ctx.target c = .ok target → target ≤ b.edge c.edge
  atMost : ctx.Agrees constraints b.size axis → ∀ c ∈ constraints, c.isRequiredOn axis = true →
    c.relation = .lessOrEqual → ∀ target, ctx.target c = .ok target →
    -0x80000000 + ((b.size.extent axis).toNat : Int) ≤ target.toInt → b.edge c.edge ≤ target
  /-- The first required equality holds if its origin satisfies the required inequalities and is not cut. -/
  equal : ∀ c, constraints.find? (fun c => c.isRequiredOn axis && c.relation = .equal) = some c →
    ∀ target, ctx.target c = .ok target →
    (∀ low, ctx.Asks constraints b.size axis .greaterOrEqual low →
      low ≤ originFor c.edge target (b.size.extent axis)) →
    (∀ high, ctx.Asks constraints b.size axis .lessOrEqual high →
      originFor c.edge target (b.size.extent axis) ≤ high) →
    -0x80000000 + (c.edge.shift (b.size.extent axis) : Int) ≤ target.toInt → b.edge c.edge = target
  /-- Of required inequalities that cannot hold together, the greatest origin that is asked for at least wins. -/
  conflict : ¬ ctx.Agrees constraints b.size axis → ctx.Asks constraints b.size axis .greaterOrEqual (b.origin axis) ∧
    ∀ low, ctx.Asks constraints b.size axis .greaterOrEqual low → low ≤ b.origin axis
  /-- Where a required equality or a conflict decides, any other low constraints lead to the same origin. -/
  decided : (∃ c ∈ constraints, c.isRequiredOn axis = true ∧ c.relation = .equal) ∨
      ¬ ctx.Agrees constraints b.size axis →
    ∀ others, ctx.Resolves others →
    constraints.filter (·.isRequiredOn axis) = others.filter (·.isRequiredOn axis) →
    ∀ b', solve others b.size ctx = .ok b' → b'.origin axis = b.origin axis

theorem axis_of_isRequiredOn {c : Constraint} {axis : Axis} (h : c.isRequiredOn axis = true) : c.edge.axis = axis := by
  rw [Constraint.isRequiredOn, Bool.and_eq_true] at h
  exact of_decide_eq_true h.1

section Solved

variable {ctx : Context} {constraints : List Constraint} {b : Bounds} {axis : Axis}

theorem contains_requests {origin : Int32} (h : ctx.Resolves constraints) :
    (Span.ofRequired (ctx.requests constraints axis (b.size.extent axis))).Contains origin ↔
      (∀ low, ctx.Asks constraints b.size axis .greaterOrEqual low → low ≤ origin) ∧
        ∀ high, ctx.Asks constraints b.size axis .lessOrEqual high → origin ≤ high := by
  rw [Span.contains_ofRequired]
  constructor
  · rintro ⟨hLower, hUpper⟩
    refine ⟨fun low hLow => ?_, fun high hHigh => ?_⟩
    · obtain ⟨r, hr, hAtLeast, rfl⟩ := (asks_iff h).mp hLow
      exact hLower r hr hAtLeast
    · obtain ⟨r, hr, hAtMost, rfl⟩ := (asks_iff h).mp hHigh
      exact hUpper r hr hAtMost
  · rintro ⟨hLower, hUpper⟩
    exact ⟨fun r hr hAtLeast => hLower _ ((asks_iff h).mpr ⟨r, hr, hAtLeast, rfl⟩),
      fun r hr hAtMost => hUpper _ ((asks_iff h).mpr ⟨r, hr, hAtMost, rfl⟩)⟩

theorem dominant_of_settled (h : ctx.Resolves constraints)
    (hOrigin : b.origin axis = settle (ctx.requests constraints axis (b.size.extent axis))) :
    Dominant ctx constraints b axis where
  atLeast := by
    intro hAgrees c hc hOn hRelation target hTarget
    -- the origin lies in the interval; from there to the edge
    have hInside := settle_contains ((agrees_iff h).mp hAgrees)
    rw [← hOrigin, contains_requests h] at hInside
    have hAxis := axis_of_isRequiredOn hOn
    subst hAxis
    exact target_le_edge (hInside.1 _ ⟨c, hc, hOn, hRelation, target, hTarget, rfl⟩)
  atMost := by
    intro hAgrees c hc hOn hRelation target hTarget hRoom
    have hInside := settle_contains ((agrees_iff h).mp hAgrees)
    rw [← hOrigin, contains_requests h] at hInside
    have hAxis := axis_of_isRequiredOn hOn
    subst hAxis
    have hShift := c.edge.shift_le (b.size.extent c.edge.axis)
    exact edge_le_target (hInside.2 _ ⟨c, hc, hOn, hRelation, target, hTarget, rfl⟩) (by omega)
  equal := by
    intro c hFirst target hTarget hLower hUpper hRoom
    have hOn : c.isRequiredOn axis = true := by
      have hHolds := List.find?_some hFirst
      rw [Bool.and_eq_true] at hHolds
      exact hHolds.1
    have hAxis := axis_of_isRequiredOn hOn
    have hPinned := firstEqual_requests ctx constraints axis (b.size.extent axis)
    rw [hFirst, Option.map_some, asked_eq _ hTarget] at hPinned
    have hSettled := settle_pinned hPinned ((contains_requests h).mpr ⟨hLower, hUpper⟩)
    subst hAxis
    exact edge_eq_target (hOrigin.trans hSettled) hRoom
  conflict := by
    intro hConflict
    obtain ⟨hAsked, hGreatest⟩ := settle_conflict ((agrees_iff h).not.mp hConflict)
    rw [← hOrigin] at hAsked hGreatest
    refine ⟨(asks_iff h).mpr hAsked, fun low hLow => ?_⟩
    obtain ⟨r, hr, hAtLeast, rfl⟩ := (asks_iff h).mp hLow
    exact hGreatest r hr hAtLeast
  decided := by
    intro hDecides others hOthers hSame b' hSolved
    obtain ⟨solved, hOk, -, hAxes⟩ := solve_ok b.size hOthers
    rw [hOk] at hSolved
    cases hSolved
    rw [hAxes, hOrigin]
    -- both lists make the same required requests
    have hRequired := required_requests ctx constraints axis (b.size.extent axis)
    rw [hSame, ← required_requests] at hRequired
    refine (settle_congr hRequired ?_).symm
    rw [← agrees_iff h]
    refine hDecides.imp_left fun ⟨c, hc, hOn, hEqual⟩ => ?_
    rw [firstEqual_requests, Option.isSome_map, List.find?_isSome]
    exact ⟨c, hc, by simp [hOn, hEqual]⟩

end Solved

/--
**Required constraints dominate.** An item whose references all resolve is placed, and on each axis its required
constraints are kept whatever else is asked for: inequalities that can hold together hold at the edges, then the first
equality; in a conflict the leading edge wins; and where these decide, low constraints change nothing.
-/
theorem solve_dominant (ctx : Context) (constraints : List Constraint) (size : CellSize)
    (hResolves : ctx.Resolves constraints) :
    ∃ b, solve constraints size ctx = .ok b ∧ b.size = size ∧ ∀ axis, Dominant ctx constraints b axis := by
  obtain ⟨b, hSolved, rfl, hOrigin⟩ := solve_ok size hResolves
  exact ⟨b, hSolved, rfl, fun axis => dominant_of_settled hResolves (hOrigin axis)⟩

/-- An item that would rather be far to the right stays inside its margin. -/
theorem margin_kept :
    (Context.of ⟨0, 0, 80, 24⟩ .empty).Resolves
        [.atMost .right (.container .right) (-2), (Constraint.equal .left .absolute 200).low] ∧
      ∃ b, solve [.atMost .right (.container .right) (-2), (Constraint.equal .left .absolute 200).low] ⟨10, 4⟩
          (.of ⟨0, 0, 80, 24⟩ .empty) = .ok b ∧ b.edge .right ≤ 78 := by
  have hResolves : (Context.of ⟨0, 0, 80, 24⟩ .empty).Resolves
      [.atMost .right (.container .right) (-2), (Constraint.equal .left .absolute 200).low] := by
    intro c hc
    rcases List.mem_cons.mp hc with rfl | hc
    · exact ⟨80, by decide⟩
    · rw [List.mem_singleton.mp hc]
      exact ⟨0, rfl⟩
  obtain ⟨b, hSolved, hSize, hDominant⟩ := solve_dominant _ _ ⟨10, 4⟩ hResolves
  refine ⟨hResolves, b, hSolved, (hDominant .horizontal).atMost ?_ _ List.mem_cons_self rfl rfl 78 ?_ ?_⟩
  · -- nothing is asked for at least
    rintro low high ⟨c, hc, hOn, hRelation, -⟩
    rcases List.mem_cons.mp hc with rfl | hc
    · cases hRelation
    · rw [List.mem_singleton.mp hc] at hRelation
      cases hRelation
  · decide
  · rw [hSize]
    decide

end Layout

end GuidedTour
