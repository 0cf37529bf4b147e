import GuidedTour.Proofs.Layout.Greedy
import Mathlib.Data.List.Forall2

/-!
# Placement is relative

An item is placed against what its constraints are measured from. If all of that is moved by so many cells along each
axis, every origin that is asked for moves along, and so does the one that is chosen, whichever way it is chosen: the
solver only compares origins and picks one of them. Two things can break this. Coordinates saturate, which is excluded
by `Unsaturated`; and a constraint on one axis may be measured from an edge of the other axis, and then follows the
movement along that one.

Main results:

* `settle_moved` - the origin that is chosen moves along with the origins that are asked for.
* `Context.MovedBy.measure`, `Context.MovedBy.request` - what is measured, and what is asked for, moves along.
* `solve_corresponds` - the outcomes of solving before and after.
* `solve_moved` - a solved item moves along, and a failure stays the same.
* `crossed_edge_strays` - a constraint that is measured from the other axis does not.
-/

namespace GuidedTour

namespace Layout

/-! ## Requests that are moved -/

theorem le_moved {k : Int} {v v' w w' : Int32} (hv : v'.toInt = v.toInt + k) (hw : w'.toInt = w.toInt + k) :
    v' ≤ w' ↔ v ≤ w := by
  rw [Int32.le_iff_toInt_le, Int32.le_iff_toInt_le]
  omega

/-- A request, and the same moved by some cells. -/
structure Request.MovedBy (k : Int) (r r' : Request) : Prop where
  relation : r'.relation = r.relation
  priority : r'.priority = r.priority
  origin   : r'.origin.toInt = r.origin.toInt + k

/-- An interval, and the same moved by some cells. An open end stays open. -/
structure Span.MovedBy (k : Int) (s s' : Span) : Prop where
  lower : Option.Rel (fun l l' => l'.toInt = l.toInt + k) s.lower s'.lower
  upper : Option.Rel (fun u u' => u'.toInt = u.toInt + k) s.upper s'.upper

namespace Span.MovedBy

variable {k : Int} {s s' : Span}

theorem raise (h : s.MovedBy k s') {v v' : Int32} (hv : v'.toInt = v.toInt + k) :
    (s.raise v).MovedBy k (s'.raise v') := by
  obtain ⟨lower, upper⟩ := s
  obtain ⟨lower', upper'⟩ := s'
  obtain ⟨hLower, hUpper⟩ := h
  cases hLower with
  | none => exact ⟨.some hv, hUpper⟩
  | some hEnd =>
    refine ⟨.some ?_, hUpper⟩
    rw [toInt_max, toInt_max]
    omega

theorem cap (h : s.MovedBy k s') {v v' : Int32} (hv : v'.toInt = v.toInt + k) :
    (s.cap v).MovedBy k (s'.cap v') := by
  obtain ⟨lower, upper⟩ := s
  obtain ⟨lower', upper'⟩ := s'
  obtain ⟨hLower, hUpper⟩ := h
  cases hUpper with
  | none => exact ⟨hLower, .some hv⟩
  | some hEnd =>
    refine ⟨hLower, .some ?_⟩
    rw [toInt_min, toInt_min]
    omega

theorem clamp (h : s.MovedBy k s') {v v' : Int32} (hv : v'.toInt = v.toInt + k) :
    (s'.clamp v').toInt = (s.clamp v).toInt + k := by
  obtain ⟨lower, upper⟩ := s
  obtain ⟨lower', upper'⟩ := s'
  obtain ⟨hLower, hUpper⟩ := h
  -- greater and smaller of two stay so, whichever ends there are
  cases hLower with
  | none =>
    cases hUpper with
    | none => exact hv
    | some hHigh =>
      simp only [Span.clamp, toInt_min]
      omega
  | some hLow =>
    cases hUpper with
    | none =>
      simp only [Span.clamp, toInt_max]
      omega
    | some hHigh =>
      simp only [Span.clamp, toInt_min, toInt_max]
      omega

theorem inhabited (h : s.MovedBy k s') (hInhabited : s.Inhabited) : s'.Inhabited := by
  obtain ⟨lower, upper⟩ := s
  obtain ⟨lower', upper'⟩ := s'
  obtain ⟨hLower, hUpper⟩ := h
  rintro l' rfl u' rfl
  cases hLower with
  | some hLow =>
    cases hUpper with
    | some hHigh =>
      have hEnds := Int32.le_iff_toInt_le.mp (hInhabited _ rfl _ rfl)
      rw [Int32.le_iff_toInt_le]
      omega

theorem symm (h : s.MovedBy k s') : s'.MovedBy (-k) s := by
  obtain ⟨lower, upper⟩ := s
  obtain ⟨lower', upper'⟩ := s'
  obtain ⟨hLower, hUpper⟩ := h
  refine ⟨?_, ?_⟩
  · cases hLower with
    | none => exact .none
    | some hLow => exact .some (by omega)
  · cases hUpper with
    | none => exact .none
    | some hHigh => exact .some (by omega)

theorem require (h : s.MovedBy k s') {r r' : Request} (hr : r.MovedBy k r') :
    (s.require r).MovedBy k (s'.require r') := by
  obtain ⟨relation, priority, origin⟩ := r
  obtain ⟨relation', priority', origin'⟩ := r'
  obtain ⟨rfl, rfl, hOrigin⟩ := hr
  cases priority' with
  | low => exact h
  | required =>
    cases relation' with
    | equal => exact h
    | greaterOrEqual => exact h.raise hOrigin
    | lessOrEqual => exact h.cap hOrigin

/-- The end that an inequality would cross is as far from it as before. -/
theorem below_upper (h : s.MovedBy k s') {v v' : Int32} (hv : v'.toInt = v.toInt + k) :
    s'.upper.all (v' ≤ ·) = s.upper.all (v ≤ ·) := by
  obtain ⟨lower, upper⟩ := s
  obtain ⟨lower', upper'⟩ := s'
  cases h.upper with
  | none => rw [Option.all_none, Option.all_none]
  | some hHigh => exact decide_eq_decide.mpr (le_moved hv hHigh)

theorem above_lower (h : s.MovedBy k s') {v v' : Int32} (hv : v'.toInt = v.toInt + k) :
    s'.lower.all (· ≤ v') = s.lower.all (· ≤ v) := by
  obtain ⟨lower, upper⟩ := s
  obtain ⟨lower', upper'⟩ := s'
  cases h.lower with
  | none => rw [Option.all_none, Option.all_none]
  | some hLow => exact decide_eq_decide.mpr (le_moved hLow hv)

theorem prefer (h : s.MovedBy k s') {r r' : Request} (hr : r.MovedBy k r') :
    (s.prefer r).MovedBy k (s'.prefer r') := by
  obtain ⟨relation, priority, origin⟩ := r
  obtain ⟨relation', priority', origin'⟩ := r'
  obtain ⟨rfl, rfl, hOrigin⟩ := hr
  cases priority' with
  | required => exact h
  | low =>
    cases relation' with
    | equal => exact h
    -- the inequality is taken on both sides or on neither
    | greaterOrEqual =>
      have hSame := h.below_upper hOrigin
      unfold Span.prefer
      dsimp only at hSame ⊢
      rw [hSame]
      split
      · exact h.raise hOrigin
      · exact h
    | lessOrEqual =>
      have hSame := h.above_lower hOrigin
      unfold Span.prefer
      dsimp only at hSame ⊢
      rw [hSame]
      split
      · exact h.cap hOrigin
      · exact h

/-- An interval with an end has its first end moved. -/
theorem firstEnd (h : s.MovedBy k s') (hEnd : ¬ (s.lower = none ∧ s.upper = none)) :
    ((s'.lower <|> s'.upper).getD 0).toInt = ((s.lower <|> s.upper).getD 0).toInt + k := by
  obtain ⟨lower, upper⟩ := s
  obtain ⟨lower', upper'⟩ := s'
  obtain ⟨hLower, hUpper⟩ := h
  cases hLower with
  | some hLow => exact hLow
  | none =>
    cases hUpper with
    | some hHigh => exact hHigh
    | none => exact absurd ⟨rfl, rfl⟩ hEnd

end Span.MovedBy

section Requests

variable {k : Int} {requests requests' : List Request}

theorem ofRequired_moved (h : List.Forall₂ (Request.MovedBy k) requests requests') :
    (Span.ofRequired requests).MovedBy k (Span.ofRequired requests') :=
  List.rel_foldl (fun _ _ hSpan _ _ hRequest => hSpan.require hRequest) ⟨.none, .none⟩ h

theorem narrow_moved {s s' : Span} (hSpan : s.MovedBy k s') (h : List.Forall₂ (Request.MovedBy k) requests requests') :
    (s.narrow requests).MovedBy k (s'.narrow requests') :=
  List.rel_foldl (fun _ _ hSpan _ _ hRequest => hSpan.prefer hRequest) hSpan h

theorem firstEqual_moved (h : List.Forall₂ (Request.MovedBy k) requests requests') (priority : Priority) :
    Option.Rel (fun v v' => v'.toInt = v.toInt + k) (firstEqual priority requests) (firstEqual priority requests') := by
  induction h with
  | nil => exact .none
  | @cons r r' rest rest' hr hRest ih =>
    unfold firstEqual at ih ⊢
    rw [List.find?_cons, List.find?_cons, hr.relation, hr.priority]
    split
    · exact .some hr.origin
    · exact ih

/-- A request can be met where it stands alone. -/
theorem compatible_single (r : Request) : Compatible [r] := by
  refine ⟨r.origin, fun q hq => ?_⟩
  rw [List.mem_singleton.mp hq, Request.MetBy]
  split
  · rfl
  · exact Int32.le_refl _
  · exact Int32.le_refl _

/-- If nothing is held, the first request that is offered is kept. -/
theorem Keeps.ne_nil {offered kept : List Request} (h : Keeps [] offered kept) (hSome : offered ≠ []) : kept ≠ [] := by
  cases h with
  | done => exact hSome
  | keep hFits hRest => exact List.cons_ne_nil _ _
  | @skip _ _ _ r hClash hRest => exact absurd (compatible_single r) hClash

/-- Where nothing is preferred, the interval has an end, because every constraint has asked for one. -/
theorem narrow_has_end (hSome : requests ≠ []) (hSat : Satisfiable requests)
    (hIneq : ∀ r ∈ requests, r.relation ≠ .equal) :
    ¬ (((Span.ofRequired requests).narrow requests).lower = none ∧
      ((Span.ofRequired requests).narrow requests).upper = none) := by
  rintro ⟨hLower, hUpper⟩
  obtain ⟨kept, hKeeps⟩ := Keeps.exists_kept (inequalities .required requests) (inequalities .low requests)
  have hNarrow := (Span.narrow_of hKeeps (fun r hr => (mem_inequalities.mp hr).2.2)
    (fun r hr => (mem_inequalities.mp hr).2) (satisfiable_iff_compatible.mp hSat)).1
  rw [Span.narrow_inequalities, Span.ofRequired_eq, hNarrow] at hLower hUpper
  -- nothing is required and nothing is kept, so nothing was offered either
  have hNothing := Span.eq_nil_of_open (relation_of_mem fun r => hKeeps.mem) hLower hUpper
  obtain ⟨hRequired, rfl⟩ := List.append_eq_nil_iff.mp hNothing
  have hLow : inequalities .low requests = [] := by
    rw [hRequired] at hKeeps
    by_contra hOffered
    exact hKeeps.ne_nil hOffered rfl
  -- but a request is of one priority or the other
  obtain ⟨r, hr⟩ := List.exists_mem_of_ne_nil requests hSome
  have hMem : r ∈ inequalities r.priority requests := mem_inequalities.mpr ⟨hr, rfl, hIneq r hr⟩
  have hNone : inequalities r.priority requests = [] := by
    cases r.priority with
    | required => exact hRequired
    | low => exact hLow
  rw [hNone] at hMem
  exact absurd hMem List.not_mem_nil

theorem relation_of_firstEqual (hRequired : firstEqual .required requests = none)
    (hLow : firstEqual .low requests = none) : ∀ r ∈ requests, r.relation ≠ .equal := by
  intro r hr hEqual
  rw [firstEqual, Option.map_eq_none_iff, List.find?_eq_none] at hRequired hLow
  cases hPriority : r.priority with
  | required => exact hRequired r hr (by simp [hPriority, hEqual])
  | low => exact hLow r hr (by simp [hPriority, hEqual])

/-- The origin that is chosen moves along with the origins that are asked for. -/
theorem settle_moved (hSome : requests ≠ []) (h : List.Forall₂ (Request.MovedBy k) requests requests') :
    (settle requests').toInt = (settle requests).toInt + k := by
  have hSpan := ofRequired_moved h
  by_cases hSat : Satisfiable requests
  · have hHere := satisfiable_iff.mp hSat
    have hNarrow := narrow_moved hSpan h
    have hEnd := narrow_has_end hSome hSat
    rw [settle_of_inhabited hHere, settle_of_inhabited (hSpan.inhabited hHere), settle.place, settle.place]
    have hPinned := firstEqual_moved h .required
    have hPreferred := firstEqual_moved h .low
    have hUnequal := @relation_of_firstEqual requests
    -- either the same equality decides on both sides, or none does on either
    generalize firstEqual .required requests = pinned at hPinned hUnequal ⊢
    generalize firstEqual .required requests' = pinned' at hPinned ⊢
    cases hPinned with
    | some hOrigin => exact hSpan.clamp hOrigin
    | none =>
      generalize firstEqual .low requests = preferred at hPreferred hUnequal ⊢
      generalize firstEqual .low requests' = preferred' at hPreferred ⊢
      cases hPreferred with
      | some hOrigin => exact hNarrow.clamp hOrigin
      | none => exact hNarrow.firstEnd (hEnd (hUnequal rfl rfl))
  · -- both conflicts are decided by the lower end
    have hThere : ¬ Satisfiable requests' := by
      intro hSat'
      exact hSat (satisfiable_iff.mpr (hSpan.symm.inhabited (satisfiable_iff.mp hSat')))
    have hLower := hSpan.lower
    rw [settle_of_conflict hSat, settle_of_conflict hThere] at hLower
    cases hLower with
    | some hOrigin => exact hOrigin

end Requests

end Layout

/-! ## What is measured -/

open Layout

/-- Where an edge of some bounds lies, before it is cut to a coordinate. -/
def Bounds.position (b : Bounds) (e : Edge) : Int := (b.origin e.axis).toInt + e.shift (b.size.extent e.axis)

/-- Some bounds, and the same moved by some cells along each axis. -/
structure Bounds.MovedBy (d : Axis → Int) (b b' : Bounds) : Prop where
  origin : ∀ axis, (b'.origin axis).toInt = (b.origin axis).toInt + d axis
  size   : b'.size = b.size

theorem Bounds.MovedBy.position {d : Axis → Int} {b b' : Bounds} (h : b.MovedBy d b') (e : Edge) :
    b'.position e = b.position e + d e.axis := by
  rw [Bounds.position, Bounds.position, h.origin, h.size]
  omega

/-- A rectangle on the screen, and the same moved by some cells along each axis. -/
def Rect.MovedBy (d : Axis → Int) (r r' : Rect) : Prop := (Bounds.ofRect r).MovedBy d (Bounds.ofRect r')

namespace Layout

/-- How far a reference moves if what is on the screen is moved. -/
def Reference.movement (d : Axis → Int) : Reference → Int
  | .container edge | .view _ edge | .bubble edge => d edge.axis
  | .absolute => 0

namespace Context

/-- The geometry that references are resolved against, and the same moved by some cells along each axis. -/
structure MovedBy (d : Axis → Int) (ctx ctx' : Context) : Prop where
  container : ctx.container.MovedBy d ctx'.container
  views     : ∀ id, Option.Rel (Rect.MovedBy d) (ctx.anchors.resolve id) (ctx'.anchors.resolve id)
  bubble    : Option.Rel (Bounds.MovedBy d) ctx.bubble ctx'.bubble

/-- What a reference measures, before it is cut to a coordinate. -/
def measure (ctx : Context) : Reference → Except PlacementError Int
  | .container edge => .ok ((Bounds.ofRect ctx.container).position edge)
  | .view id edge =>
    match ctx.anchors.resolve id with
    | some frame => .ok ((Bounds.ofRect frame).position edge)
    | none => .error (.unresolvedAnchor id)
  | .bubble edge =>
    match ctx.bubble with
    | some b => .ok (b.position edge)
    | none => .error .bubbleNotPlaced
  | .absolute => .ok 0

theorem resolve_eq (ctx : Context) (reference : Reference) :
    ctx.resolve reference = saturate <$> ctx.measure reference := by
  -- an edge is the position cut to a coordinate, and a failure is none of either
  cases reference with
  | container edge => exact congrArg Except.ok (edge_eq _ edge)
  | view id edge =>
    unfold resolve measure
    dsimp only
    cases ctx.anchors.resolve id with
    | some frame => exact congrArg Except.ok (edge_eq _ edge)
    | none => rfl
  | bubble edge =>
    unfold resolve measure
    dsimp only
    cases ctx.bubble with
    | some b => exact congrArg Except.ok (edge_eq _ edge)
    | none => rfl
  | absolute => rfl

/-- Nothing that these constraints compute reaches an end of the range of coordinates: not what they measure, not the
target, and not the origin that they ask for. -/
def Unsaturated (ctx : Context) (constraints : List Constraint) (size : CellSize) : Prop :=
  ∀ c ∈ constraints, ∀ position ∈ (ctx.measure c.reference).toOption,
    (saturate position).toInt = position ∧
      (saturate (position + c.constant.toInt)).toInt = position + c.constant.toInt ∧
      (saturate (position + c.constant.toInt - c.edge.shift (size.extent c.axis))).toInt =
        position + c.constant.toInt - c.edge.shift (size.extent c.axis)

instance (ctx : Context) (constraints : List Constraint) (size : CellSize) :
    Decidable (ctx.Unsaturated constraints size) :=
  inferInstanceAs (Decidable (∀ c ∈ constraints, ∀ position ∈ (ctx.measure c.reference).toOption, _ ∧ _ ∧ _))

/-- What is asked for is as far from what is measured as the constraint says. -/
theorem Unsaturated.origin {ctx : Context} {constraints : List Constraint} {size : CellSize}
    (h : ctx.Unsaturated constraints size) {c : Constraint} (hc : c ∈ constraints) {position : Int}
    (hMeasure : ctx.measure c.reference = .ok position) : (ctx.asked (size.extent c.axis) c).origin.toInt =
      position + c.constant.toInt - c.edge.shift (size.extent c.axis) := by
  obtain ⟨hPosition, hTarget, hOrigin⟩ := h c hc position (by rw [hMeasure]; rfl)
  have hAsked : ctx.target c = .ok (saturate (position + c.constant.toInt)) := by
    unfold Context.target
    rw [resolve_eq, hMeasure]
    show Except.ok (saturate ((saturate position).toInt + c.constant.toInt)) = _
    rw [hPosition]
  rw [asked_eq _ hAsked, originFor_eq, hTarget, hOrigin]

end Context

section Contexts

variable {d k : Axis → Int} {ctx ctx' : Context}

/-- What is measured moves along, and what cannot be measured still cannot. -/
theorem Context.MovedBy.measure (h : ctx.MovedBy d ctx') (reference : Reference) :
    ctx'.measure reference = (· + reference.movement d) <$> ctx.measure reference := by
  cases reference with
  | container edge => exact congrArg Except.ok (h.container.position edge)
  | view id edge =>
    -- both contexts know the view, or neither does
    have hView := h.views id
    unfold Context.measure
    dsimp only
    generalize ctx.anchors.resolve id = frame at hView ⊢
    generalize ctx'.anchors.resolve id = frame' at hView ⊢
    cases hView with
    | some hFrame => exact congrArg Except.ok (hFrame.position edge)
    | none => rfl
  | bubble edge =>
    have hBubble := h.bubble
    unfold Context.measure
    dsimp only
    generalize ctx.bubble = bubble at hBubble ⊢
    generalize ctx'.bubble = bubble' at hBubble ⊢
    cases hBubble with
    | some hPlaced => exact congrArg Except.ok (hPlaced.position edge)
    | none => rfl
  | absolute => rfl

theorem Context.resolves_iff {ctx : Context} {reference : Reference} :
    (∃ value, ctx.resolve reference = .ok value) ↔ ∃ position, ctx.measure reference = .ok position := by
  rw [Context.resolve_eq]
  cases ctx.measure reference with
  | error e => simp
  | ok position => exact ⟨fun _ => ⟨position, rfl⟩, fun _ => ⟨saturate position, rfl⟩⟩

theorem Context.MovedBy.resolves (h : ctx.MovedBy d ctx') {constraints : List Constraint}
    (hResolves : ctx.Resolves constraints) : ctx'.Resolves constraints := by
  intro c hc
  obtain ⟨position, hMeasure⟩ := Context.resolves_iff.mp (hResolves c hc)
  refine Context.resolves_iff.mpr ⟨position + c.reference.movement d, ?_⟩
  rw [h.measure, hMeasure]
  rfl

/-- What is asked for on an axis moves along with what its constraints are measured from. -/
theorem Context.MovedBy.requests (h : ctx.MovedBy d ctx') {constraints : List Constraint} {size : CellSize}
    (hResolves : ctx.Resolves constraints) (hFollows : ∀ c ∈ constraints, c.reference.movement d = k c.axis)
    (hBefore : ctx.Unsaturated constraints size) (hAfter : ctx'.Unsaturated constraints size) (axis : Axis) :
    List.Forall₂ (Request.MovedBy (k axis)) (ctx.requests constraints axis (size.extent axis))
      (ctx'.requests constraints axis (size.extent axis)) := by
  unfold Context.requests
  rw [List.forall₂_map_left_iff, List.forall₂_map_right_iff, List.forall₂_same]
  intro c hc
  obtain ⟨hMem, hAxis⟩ := List.mem_filter.mp hc
  obtain rfl : c.axis = axis := of_decide_eq_true hAxis
  obtain ⟨position, hHere⟩ := Context.resolves_iff.mp (hResolves c hMem)
  have hThere : ctx'.measure c.reference = .ok (position + k c.axis) := by
    rw [h.measure, hHere, ← hFollows c hMem]
    rfl
  refine ⟨rfl, rfl, ?_⟩
  rw [hBefore.origin hMem hHere, hAfter.origin hMem hThere]
  omega

/-! ## Solving before and after -/

theorem discard_mapM {α β : Type} (f : α → Except PlacementError β) (items : List α) :
    Functor.discard (items.mapM f) = forM items fun a => Functor.discard (f a) := by
  induction items with
  | nil => rfl
  | cons a rest ih =>
    rw [List.mapM_cons, List.forM_cons, ← ih]
    -- either traversal stops at the first failure
    cases f a with
    | error e => rfl
    | ok b =>
      cases List.mapM f rest with
      | error e => rfl
      | ok bs => rfl

/-- Why an item cannot be placed, if it cannot, is a matter of its references alone. -/
theorem discard_solve (constraints : List Constraint) (size : CellSize) (ctx : Context) :
    Functor.discard (solve constraints size ctx) = (do
      forM (constraints.filter (·.axis = .horizontal)) fun c => Functor.discard (ctx.measure c.reference)
      forM (constraints.filter (·.axis = .vertical)) fun c => Functor.discard (ctx.measure c.reference)) := by
  have hRequest : ∀ extent : UInt16, (fun c => Functor.discard (ctx.request extent c)) =
      fun c => Functor.discard (ctx.measure c.reference) := by
    intro extent
    funext c
    unfold Context.request
    rw [Context.resolve_eq]
    cases ctx.measure c.reference <;> rfl
  have hAxis : ∀ (axis : Axis) (extent : UInt16), Functor.discard (solveAxis constraints axis extent ctx) =
      forM (constraints.filter (·.axis = axis)) fun c => Functor.discard (ctx.measure c.reference) := by
    intro axis extent
    rw [← hRequest extent, ← discard_mapM]
    unfold solveAxis
    cases List.mapM (ctx.request extent) (constraints.filter (·.axis = axis)) <;> rfl
  rw [← hAxis .horizontal size.width, ← hAxis .vertical size.height]
  unfold solve
  cases solveAxis constraints .horizontal size.width ctx with
  | error e => rfl
  | ok x =>
    cases solveAxis constraints .vertical size.height ctx with
    | error e => rfl
    | ok y => rfl

theorem bind_eq_ok {α β : Type} {result : Except PlacementError α} {f : α → Except PlacementError β} {b : β} :
    result >>= f = .ok b ↔ ∃ a, result = .ok a ∧ f a = .ok b := by
  cases result <;> simp [bind, Except.bind]

theorem forM_ok {α : Type} {f : α → Except PlacementError Unit} {items : List α} (h : forM items f = .ok ()) :
    ∀ a ∈ items, f a = .ok () := by
  induction items with
  | nil => exact fun a ha => absurd ha List.not_mem_nil
  | cons first rest ih =>
    rw [List.forM_cons] at h
    obtain ⟨u, hFirst, hRest⟩ := bind_eq_ok.mp h
    exact List.forall_mem_cons.mpr ⟨hFirst, ih hRest⟩

/-- All references of an item that is placed can be measured. -/
theorem resolves_of_solve {constraints : List Constraint} {size : CellSize} {b : Bounds}
    (h : solve constraints size ctx = .ok b) : ctx.Resolves constraints := by
  have hDiscard := discard_solve constraints size ctx
  rw [h] at hDiscard
  obtain ⟨u, hHorizontal, hVertical⟩ := bind_eq_ok.mp hDiscard.symm
  have hAxes : ∀ axis, forM (constraints.filter (·.axis = axis))
      (fun c => Functor.discard (ctx.measure c.reference)) = .ok () := by
    intro axis
    cases axis with
    | horizontal => exact hHorizontal
    | vertical => exact hVertical
  intro c hc
  have hOk := forM_ok (hAxes c.axis) c (List.mem_filter.mpr ⟨hc, decide_eq_true rfl⟩)
  refine Context.resolves_iff.mpr ?_
  cases hMeasure : ctx.measure c.reference with
  | error e =>
    rw [hMeasure] at hOk
    cases hOk
  | ok position => exact ⟨position, rfl⟩

theorem Context.MovedBy.failure (h : ctx.MovedBy d ctx') (constraints : List Constraint) (size : CellSize) :
    Functor.discard (solve constraints size ctx') = Functor.discard (solve constraints size ctx) := by
  have hMeasure : (fun c : Constraint => Functor.discard (ctx'.measure c.reference)) =
      fun c => Functor.discard (ctx.measure c.reference) := by
    funext c
    rw [h.measure]
    cases ctx.measure c.reference <;> rfl
  rw [discard_solve, discard_solve, hMeasure]

theorem error_iff_of_discard {α : Type} {result result' : Except PlacementError α}
    (h : Functor.discard result' = Functor.discard result) (e : PlacementError) :
    result = .error e ↔ result' = .error e := by
  cases result with
  | error e₁ =>
    cases result' with
    | error e₂ =>
      obtain rfl : e₂ = e₁ := Except.error.inj h
      rfl
    | ok b => cases h
  | ok a =>
    cases result' with
    | error e₂ => cases h
    | ok b => simp

/--
**Placement is relative.** If the container, the views on screen and the placed bubble are moved by so many cells along
each axis, whatever could not be placed still cannot, for the same reason. An item that has a constraint on each axis
moves along each axis as far as all that its constraints of that axis are measured from, and keeps its size.
-/
theorem solve_moved (d k : Axis → Int) (ctx ctx' : Context) (constraints : List Constraint) (size : CellSize)
    (hMoved : ctx.MovedBy d ctx') :
    (∀ e, solve constraints size ctx = .error e ↔ solve constraints size ctx' = .error e) ∧
      ((∀ axis, ∃ c ∈ constraints, c.axis = axis) → (∀ c ∈ constraints, c.reference.movement d = k c.axis) →
        ctx.Unsaturated constraints size → ctx'.Unsaturated constraints size →
        ∀ b, solve constraints size ctx = .ok b → ∃ b', solve constraints size ctx' = .ok b' ∧ b.MovedBy k b') := by
  refine ⟨error_iff_of_discard (hMoved.failure constraints size), ?_⟩
  intro hBoth hFollows hBefore hAfter b hSolved
  have hResolves := resolves_of_solve hSolved
  obtain ⟨here, hHere, hSize, hOrigin⟩ := solve_ok size hResolves
  obtain ⟨there, hThere, hSize', hOrigin'⟩ := solve_ok size (hMoved.resolves hResolves)
  obtain rfl : b = here := Except.ok.inj (hSolved.symm.trans hHere)
  refine ⟨there, hThere, fun axis => ?_, hSize'.trans hSize.symm⟩
  -- without a constraint on the axis the origin would be zero, wherever the container is
  have hSome : ctx.requests constraints axis (size.extent axis) ≠ [] := by
    obtain ⟨c, hc, hAxis⟩ := hBoth axis
    have hMem : ctx.asked (size.extent axis) c ∈ ctx.requests constraints axis (size.extent axis) :=
      List.mem_map_of_mem (List.mem_filter.mpr ⟨hc, decide_eq_true hAxis⟩)
    exact List.ne_nil_of_mem hMem
  rw [hOrigin, hOrigin']
  exact settle_moved hSome (hMoved.requests hResolves hFollows hBefore hAfter axis)

end Contexts

/-- So many cells to the right, and so many down. -/
def along (dx dy : Int) : Axis → Int
  | .horizontal => dx
  | .vertical => dy

/-- An item in the middle of a view, below a bubble, goes where they go. -/
theorem moved_with_view :
    let ctx : Context := ⟨⟨0, 0, 80, 24⟩, ⟨[("list", ⟨4, 2, 20, 9⟩)]⟩, some ⟨6, 12, 15, 3⟩⟩
    let ctx' : Context := ⟨⟨7, 1, 80, 24⟩, ⟨[("list", ⟨11, 3, 20, 9⟩)]⟩, some ⟨13, 13, 15, 3⟩⟩
    let constraints : List Constraint :=
      [.equal .centerX (.view "list" .centerX) 0, .atLeast .top (.bubble .bottom) 1,
        (Constraint.atMost .bottom (.container .bottom) (-2)).low]
    ctx.MovedBy (along 7 1) ctx' ∧ ctx.Unsaturated constraints ⟨9, 4⟩ ∧ ctx'.Unsaturated constraints ⟨9, 4⟩ ∧
      ∃ b b', solve constraints ⟨9, 4⟩ ctx = .ok b ∧ solve constraints ⟨9, 4⟩ ctx' = .ok b' ∧
        b.MovedBy (along 7 1) b' := by
  intro ctx ctx' constraints
  have hMoved : ctx.MovedBy (along 7 1) ctx' := by
    refine ⟨⟨by rintro (_ | _) <;> decide, rfl⟩, fun id => ?_, .some ⟨by rintro (_ | _) <;> decide, rfl⟩⟩
    unfold Anchors.resolve
    rw [List.lookup_cons, List.lookup_cons]
    split
    · exact .some ⟨by rintro (_ | _) <;> decide, rfl⟩
    · exact .none
  have hBefore : ctx.Unsaturated constraints ⟨9, 4⟩ := by
    decide +kernel
  have hAfter : ctx'.Unsaturated constraints ⟨9, 4⟩ := by
    decide +kernel
  have hSolved : solve constraints ⟨9, 4⟩ ctx = .ok ⟨10, 16, 9, 4⟩ := by
    decide +kernel
  obtain ⟨-, hFollows⟩ := solve_moved (along 7 1) (along 7 1) ctx ctx' constraints ⟨9, 4⟩ hMoved
  obtain ⟨b', hThere, hBounds⟩ := hFollows (by rintro (_ | _) <;> decide) (by decide) hBefore hAfter _ hSolved
  exact ⟨hMoved, hBefore, hAfter, _, b', hSolved, hThere, hBounds⟩

/-- An item that is placed from the top of the container on both axes goes down and to the right as far as the container
goes down, however far that goes to the right. -/
theorem crossed_edge_strays :
    let ctx : Context := .of ⟨0, 0, 80, 24⟩ .empty
    let ctx' : Context := .of ⟨5, 3, 80, 24⟩ .empty
    let constraints : List Constraint := [.equal .left (.container .top) 0, .equal .top (.container .top) 0]
    ctx.MovedBy (along 5 3) ctx' ∧ (∀ axis, ∃ c ∈ constraints, c.axis = axis) ∧
      (∀ c ∈ constraints, c.reference ≠ .absolute) ∧ ctx.Unsaturated constraints ⟨10, 4⟩ ∧
      ctx'.Unsaturated constraints ⟨10, 4⟩ ∧
      solve constraints ⟨10, 4⟩ ctx = .ok ⟨0, 0, 10, 4⟩ ∧ solve constraints ⟨10, 4⟩ ctx' = .ok ⟨3, 3, 10, 4⟩ ∧
      ¬ Bounds.MovedBy (along 5 3) ⟨0, 0, 10, 4⟩ ⟨3, 3, 10, 4⟩ := by
  intro ctx ctx' constraints
  have hMoved : ctx.MovedBy (along 5 3) ctx' :=
    ⟨⟨by rintro (_ | _) <;> decide, rfl⟩, fun _ => .none, .none⟩
  have hBefore : ctx.Unsaturated constraints ⟨10, 4⟩ := by
    decide +kernel
  have hAfter : ctx'.Unsaturated constraints ⟨10, 4⟩ := by
    decide +kernel
  refine ⟨hMoved, by rintro (_ | _) <;> decide, by decide, hBefore, hAfter, by decide +kernel, by decide +kernel, ?_⟩
  -- it would have to go five cells to the right
  intro hBounds
  exact absurd (hBounds.origin .horizontal) (by decide)

end Layout

end GuidedTour
