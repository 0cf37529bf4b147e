import GuidedTour.Proofs.Bubble.Placement
import GuidedTour.Run.Drawing

/-!
# Two ways to find an anchor

The bubble and its arrow follow an anchor through constraints, which name an edge of the container or of a view and a
distance from it. The hole in the veil is built from the bounds of the anchor. Both have to mean the same cells: a
rectangle is measured from the first column and the first row of the container on one side, and is moved as a whole on
the other, its middle included, which is cut to a whole cell only once on either side.

So it does not matter how an anchor is given. A rectangle of the container, and a view that is registered where the
rectangle lies, give a step the same constraints up to the way in which they are written, and the solver does not see
the difference.

Main results:

* `target_reference`, `target_of_constraint` - an edge of a target as a constraint sees it, failures included.
* `solve_alike` - constraints that ask for the same lead to the same place, each list in its own geometry.
* `destination_alike` - so do steps whose anchors lie at the same bounds.
* `anchors_agree` - the two ways agree, and a rectangle is as good as a view.
-/

namespace GuidedTour

namespace Layout

/-! ## Edges of a target -/

/-- A target without bounds has no edges either, and the reason is the same. -/
theorem resolve_reference_error {t : Target} {ctx : Context} {e : PlacementError} (hTarget : t.resolve ctx = .error e)
    (edge : Edge) : ctx.resolve (t.reference edge).1 = .error e := by
  -- the container and its rectangles always have a place
  cases t with
  | container => cases hTarget
  | rect r => cases hTarget
  | view id =>
    dsimp only [Target.resolve] at hTarget
    dsimp only [Target.reference, Context.resolve]
    cases hFrame : ctx.anchors.resolve id with
    | some frame =>
      rw [hFrame] at hTarget
      cases hTarget
    | none =>
      rw [hFrame] at hTarget
      exact congrArg Except.error (Except.error.inj hTarget)

/-- A constraint that is tied to an edge of a target is measured from that edge of the target's bounds. The distance is
added to the anchor's own offset first, and the sum to the reference; the order does not matter, since neither of the
two is negative. -/
theorem target_of_constraint (t : Target) (ctx : Context) (itemEdge edge : Edge) (k : Int32) :
    ctx.target (t.constraint itemEdge edge k) =
      (fun bounds => saturate ((bounds.edge edge).toInt + k.toInt)) <$> t.resolve ctx := by
  show (do
    let value ← ctx.resolve (t.reference edge).1
    return saturate (value.toInt + (saturate ((t.reference edge).2.toInt + k.toInt)).toInt)) = _
  cases hTarget : t.resolve ctx with
  | error e =>
    rw [resolve_reference_error hTarget edge]
    rfl
  | ok bounds =>
    obtain ⟨value, hValue, hEdge, ⟨hValueLow, -⟩, hOffsetLow, -⟩ := resolve_reference hTarget edge
    have hHigh := Int32.toInt_lt k
    have hLow := Int32.le_toInt k
    have hSum : saturate (value.toInt + (saturate ((t.reference edge).2.toInt + k.toInt)).toInt) =
        saturate ((bounds.edge edge).toInt + k.toInt) := by
      rw [← Int32.toInt_inj, ← hEdge, toInt_saturate, toInt_saturate, toInt_saturate]
      omega
    rw [hValue]
    exact congrArg Except.ok hSum

/-- A reference and a constant that stand for an edge of a target come to that edge. -/
theorem target_reference (t : Target) (ctx : Context) (itemEdge edge : Edge) :
    ctx.target (.equal itemEdge (t.reference edge).1 (t.reference edge).2) = (·.edge edge) <$> t.resolve ctx := by
  -- it is the constraint that adds no distance
  have hNone : t.constraint itemEdge edge 0 = .equal itemEdge (t.reference edge).1 (t.reference edge).2 := by
    have hSame : saturate ((t.reference edge).2.toInt + (0 : Int32).toInt) = (t.reference edge).2 := by
      rw [Int32.toInt_zero, Int.add_zero, saturate_toInt]
    rw [Target.constraint]
    dsimp only
    rw [hSame]
  rw [← hNone, target_of_constraint]
  congr 1
  funext bounds
  rw [Int32.toInt_zero, Int.add_zero, saturate_toInt]

/-! ## Constraints that ask for the same -/

/-- Two constraints, each with a geometry of its own, that ask for the same. -/
structure Constraint.Alike (ctx ctx' : Context) (c c' : Constraint) : Prop where
  edge     : c'.edge = c.edge
  relation : c'.relation = c.relation
  priority : c'.priority = c.priority
  target   : ctx'.target c' = ctx.target c

theorem request_of_target (ctx : Context) (extent : UInt16) (c : Constraint) : ctx.request extent c =
    (fun target => ⟨c.relation, c.priority, originFor c.edge target extent⟩) <$> ctx.target c := by
  unfold Context.request Context.target
  cases ctx.resolve c.reference <;> rfl

section Alike

variable {ctx ctx' : Context}

theorem Constraint.Alike.request {c c' : Constraint} (h : c.Alike ctx ctx' c') (extent : UInt16) :
    ctx'.request extent c' = ctx.request extent c := by
  rw [request_of_target, request_of_target, h.edge, h.relation, h.priority, h.target]

/-- What a constraint asks for does not depend on its priority. -/
theorem Constraint.Alike.low {c c' : Constraint} (h : c.Alike ctx ctx' c') : c.low.Alike ctx ctx' c'.low :=
  ⟨h.edge, h.relation, rfl, h.target⟩

/-- A constraint that is not tied to the target asks for the same where its reference has the same value. -/
theorem Constraint.Alike.of_resolve {c : Constraint} (h : ctx'.resolve c.reference = ctx.resolve c.reference) :
    c.Alike ctx ctx' c := by
  refine ⟨rfl, rfl, rfl, ?_⟩
  unfold Context.target
  rw [h]

/-- Constraints that ask for the same lead to the same place, or fail for the same reason. -/
theorem solve_alike {constraints others : List Constraint}
    (h : List.Forall₂ (Constraint.Alike ctx ctx') constraints others) (size : CellSize) :
    solve others size ctx' = solve constraints size ctx := by
  have hAxis : ∀ (axis : Axis) (extent : UInt16),
      solveAxis others axis extent ctx' = solveAxis constraints axis extent ctx := by
    intro axis extent
    have hRequests : (others.filter (·.axis = axis)).mapM (ctx'.request extent) =
        (constraints.filter (·.axis = axis)).mapM (ctx.request extent) := by
      -- a constraint is on the same axis as its counterpart
      induction h with
      | nil => rfl
      | @cons c c' rest rest' hHead hTail ih =>
        have hOn : c'.axis = c.axis := congrArg Edge.axis hHead.edge
        rw [List.filter_cons, List.filter_cons, hOn]
        split
        · rw [List.mapM_cons, List.mapM_cons, hHead.request, ih]
        · exact ih
    unfold solveAxis
    rw [hRequests]
  unfold solve
  rw [hAxis, hAxis]

/-! ## Anchors at the same bounds -/

section Targets

variable {t t' : Target} (hContainer : ctx'.container = ctx.container) (hTarget : t'.resolve ctx' = t.resolve ctx)

include hTarget in
theorem constraint_alike (itemEdge edge : Edge) (k : Int32) :
    (t.constraint itemEdge edge k).Alike ctx ctx' (t'.constraint itemEdge edge k) := by
  -- only the reference and the constant depend on the target
  have hShape : ∀ t : Target, (t.constraint itemEdge edge k).edge = itemEdge ∧
      (t.constraint itemEdge edge k).relation = .equal ∧ (t.constraint itemEdge edge k).priority = .required :=
    fun t => ⟨rfl, rfl, rfl⟩
  obtain ⟨hEdge, hRelation, hPriority⟩ := hShape t
  obtain ⟨hEdge', hRelation', hPriority'⟩ := hShape t'
  refine ⟨hEdge'.trans hEdge.symm, hRelation'.trans hRelation.symm, hPriority'.trans hPriority.symm, ?_⟩
  rw [target_of_constraint, target_of_constraint, hTarget]

include hContainer in
theorem margins_alike (margin : UInt16) :
    List.Forall₂ (Constraint.Alike ctx ctx') (marginConstraints margin) (marginConstraints margin) := by
  have hEdge : ∀ edge, ctx'.resolve (.container edge) = ctx.resolve (.container edge) := by
    intro edge
    unfold Context.resolve
    rw [hContainer]
  exact .cons (.of_resolve (hEdge .left)) (.cons (.of_resolve (hEdge .right)) .nil)

include hContainer hTarget in
theorem highlight_alike (location : TextLocation) (style : BubbleStyle) (margin : UInt16) :
    List.Forall₂ (Constraint.Alike ctx ctx') (highlightConstraints t location style margin)
      (highlightConstraints t' location style margin) := by
  refine .cons ((constraint_alike hTarget .centerX .centerX 0).low) (.cons ?_ (margins_alike hContainer margin))
  cases location with
  | above => exact constraint_alike hTarget .bottom .top _
  | below => exact constraint_alike hTarget .top .bottom _

include hTarget in
/-- The arrows of bubbles that stand in the same place are tied to the bubble and to the middle of the target. -/
theorem arrow_alike (hBubble : ctx'.bubble = ctx.bubble) (location : TextLocation) (style : BubbleStyle) :
    List.Forall₂ (Constraint.Alike ctx ctx') (arrowConstraints t location style)
      (arrowConstraints t' location style) := by
  have hEdge : ∀ edge, ctx'.resolve (.bubble edge) = ctx.resolve (.bubble edge) := by
    intro edge
    unfold Context.resolve
    rw [hBubble]
  refine .cons ?_ (.cons (.of_resolve (hEdge .left)) (.cons (.of_resolve (hEdge .right))
    (.cons ((constraint_alike hTarget .centerX .centerX 0).low) .nil)))
  cases location with
  | above => exact .of_resolve (hEdge .bottom)
  | below => exact .of_resolve (hEdge .top)

end Targets

end Alike

end Layout

open Layout

/-! ## Steps with anchors at the same bounds -/

section Steps

variable {step step' : Step} {anchor anchor' : Anchor} {location : TextLocation} {ctx ctx' : Context}

/-- Steps that say the same about anchors at the same bounds send a bubble and its arrow to the same place. -/
theorem Bubble.View.destination_alike {v w : Bubble.View} (hOutfit : v.outfit = w.outfit)
    (hContent : step'.content = step.content) (hKind : step.kind = .highlighted anchor location)
    (hKind' : step'.kind = .highlighted anchor' location) (hContainer : ctx'.container = ctx.container)
    (hTarget : (Target.ofAnchor anchor').resolve ctx' = (Target.ofAnchor anchor).resolve ctx) :
    w.destination step' ctx' = v.destination step ctx := by
  obtain ⟨hStyle, hMargin, -⟩ := outfit_inj hOutfit
  have hSize : w.bubbleSize step'.content ctx'.container = v.bubbleSize step.content ctx.container := by
    rw [hContent, hContainer]
    exact (bubbleSize_congr hOutfit step.content ctx.container).symm
  have hBubble : ∀ size, solve (highlightConstraints (.ofAnchor anchor') location v.style v.margin) size ctx' =
      solve (highlightConstraints (.ofAnchor anchor) location v.style v.margin) size ctx :=
    solve_alike (highlight_alike hContainer hTarget location v.style v.margin)
  -- where the bubble is the same, so is the arrow
  have hArrow : ∀ (b : Bounds) (size : CellSize),
      solve (arrowConstraints (.ofAnchor anchor') location v.style) size { ctx' with bubble := some b } =
        solve (arrowConstraints (.ofAnchor anchor) location v.style) size { ctx with bubble := some b } := by
    intro b size
    have hSame : (Target.ofAnchor anchor').resolve { ctx' with bubble := some b } =
        (Target.ofAnchor anchor).resolve { ctx with bubble := some b } := by
      rw [resolve_withBubble, resolve_withBubble, hTarget]
    exact solve_alike (arrow_alike hSame rfl location v.style) size
  unfold destination place
  dsimp only
  rw [hSize, ← hStyle, ← hMargin, stepConstraints_highlighted hKind, stepConstraints_highlighted hKind']
  dsimp only [targetConstraints]
  rw [hBubble]
  simp only [hArrow]

/-- They also send the hole to the same place. -/
theorem Run.holeTarget_alike (hKind : step.kind = .highlighted anchor location)
    (hKind' : step'.kind = .highlighted anchor' location) (hContainer : ctx'.container = ctx.container)
    (hTarget : (Target.ofAnchor anchor').resolve ctx' = (Target.ofAnchor anchor).resolve ctx) (settings : Settings)
    (previous : Option Overlay.Hole) :
    holeTarget settings step' ctx' previous = holeTarget settings step ctx previous := by
  unfold holeTarget
  rw [hKind, hKind', hContainer]
  dsimp only
  rw [hTarget]

end Steps

/-! ## Rectangles and views -/

/-- A rectangle of a container, as a rectangle of the screen. -/
def Rect.within (r container : Rect) : Rect := ⟨container.x + r.x, container.y + r.y, r.width, r.height⟩

/-- There it still ends on the screen. -/
def Rect.FitsWithin (r container : Rect) : Prop :=
  container.x.toNat + r.x.toNat + r.width.toNat ≤ 65535 ∧ container.y.toNat + r.y.toNat + r.height.toNat ≤ 65535

instance (r container : Rect) : Decidable (r.FitsWithin container) := inferInstanceAs (Decidable (_ ∧ _))

theorem Layout.resolve_rect {r : Rect} {ctx : Context} (hFits : r.FitsWithin ctx.container) :
    (Target.rect r).resolve ctx = .ok (Bounds.ofRect (r.within ctx.container)) := by
  obtain ⟨hRight, hBottom⟩ := hFits
  -- neither the sum of two coordinates on the screen nor that of two signed ones is cut
  have hSum : ∀ a b : UInt16, b.toNat + a.toNat ≤ 65535 →
      saturate ((Int32.ofInt a.toNat).toInt + (Int32.ofInt b.toNat).toInt) = Int32.ofInt (b + a).toNat := by
    intro a b hFit
    rw [← Int32.toInt_inj, toInt_saturate, toInt_ofNat16, toInt_ofNat16, toInt_ofNat16, UInt16.toNat_add]
    omega
  show Except.ok ((Bounds.ofRect r).moveBy _ _) = Except.ok _
  rw [Bounds.moveBy, Bounds.ofRect, Bounds.ofRect]
  dsimp only
  rw [hSum r.x ctx.container.x (by omega), hSum r.y ctx.container.y (by omega)]
  rfl

/-- A step that highlights a rectangle of the container, and one with the same text that highlights a view; the view is
registered right where the rectangle lies, which is on the screen. -/
structure Layout.Counterparts (ctx ctx' : Context) (step step' : Step) (r : Rect) (id : String)
    (location : TextLocation) : Prop where
  rect       : step.kind = .highlighted (.rect r) location
  view       : step'.kind = .highlighted (.view id) location
  content    : step'.content = step.content
  container  : ctx'.container = ctx.container
  fits       : r.FitsWithin ctx.container
  registered : ctx'.anchors.resolve id = some (r.within ctx.container)

theorem Layout.Counterparts.resolve {ctx ctx' : Context} {step step' : Step} {r : Rect} {id : String}
    {location : TextLocation} (h : Counterparts ctx ctx' step step' r id location) :
    (Target.ofAnchor (.view id)).resolve ctx' = (Target.ofAnchor (.rect r)).resolve ctx := by
  have hView : (Target.view id).resolve ctx' = .ok (Bounds.ofRect (r.within ctx.container)) := by
    dsimp only [Target.resolve]
    rw [h.registered]
  exact hView.trans (resolve_rect h.fits).symm

/--
**Anchors agree.** Whatever a bubble is attached to, in any geometry, the reference and the constant that stand for an
edge come to that edge of the bounds that the hole is built from, also after a distance was added to the constant; and
where there are no bounds, the constraints fail with the same error. Therefore a bubble and its arrow, in any frame of
their step, and the hole are sent to the same place by a step that highlights a rectangle of the container and by its
counterpart that highlights a view there.
-/
theorem anchors_agree :
    (∀ (t : Target) (ctx : Context) (itemEdge edge : Edge),
      ctx.target (.equal itemEdge (t.reference edge).1 (t.reference edge).2) = (·.edge edge) <$> t.resolve ctx ∧
        ∀ k, ctx.target (t.constraint itemEdge edge k) =
          (fun bounds => saturate ((bounds.edge edge).toInt + k.toInt)) <$> t.resolve ctx) ∧
    ∀ (ctx ctx' : Context) (step step' : Step) (r : Rect) (id : String) (location : TextLocation),
      Counterparts ctx ctx' step step' r id location →
        (∀ v w : Bubble.View, v.Shows step.kind → w.Shows step'.kind → v.outfit = w.outfit → ∀ now later,
          ∃ placed, (v.layout step ctx now).2 = .ok placed ∧ (w.layout step' ctx' later).2 = .ok placed ∧
            (v.layout step ctx now).1.SentTo placed ∧ (w.layout step' ctx' later).1.SentTo placed) ∧
        ∀ settings previous,
          Run.holeTarget settings step' ctx' previous = Run.holeTarget settings step ctx previous := by
  refine ⟨fun t ctx itemEdge edge => ⟨target_reference t ctx itemEdge edge, target_of_constraint t ctx itemEdge edge⟩,
    fun ctx ctx' step step' r id location h => ⟨fun v w hShows hShows' hOutfit now later => ?_, ?_⟩⟩
  · -- a rectangle always has a place, so the bubble has one
    have hAim : Bubble.View.Aim ctx step.kind (Bounds.ofRect (r.within ctx.container)).centerX := by
      rw [h.rect]
      exact .anchor (resolve_rect h.fits)
    obtain ⟨placed, hHere⟩ := Bubble.View.layout_aimed hShows hAim now
    have hSteady : step'.kind.Steady := h.view ▸ trivial
    have hThere : (w.layout step' ctx' later).2 = .ok placed := by
      rw [Bubble.View.layout_answer hShows' hSteady,
        Bubble.View.destination_alike hOutfit h.content h.rect h.view h.container h.resolve, ← hHere]
      exact (Bubble.View.layout_answer hShows hAim.steady ctx now).symm
    exact ⟨placed, hHere, hThere, Bubble.View.layout_sent hHere, Bubble.View.layout_sent hThere⟩
  · exact Run.holeTarget_alike h.rect h.view h.container h.resolve

/-- A rectangle of odd width in a container that does not begin in the corner of the screen, and a view in its place: the
bubble goes below them, the arrow points at their middle, and the hole lies around both. -/
theorem anchors_agree_offset :
    let content : Content := .custom { preferredSize := fun _ => ⟨12, 1⟩, draw := fun _ _ b => b }
    let ctx : Context := .of ⟨5, 2, 60, 20⟩ .empty
    let ctx' : Context := .of ⟨5, 2, 60, 20⟩ ⟨[("list", ⟨15, 6, 7, 3⟩)]⟩
    let v : Bubble.View := { style := {}, margin := 1, preferredWidth := none, transition := 0 }
    let step : Step := .below (.rect ⟨10, 4, 7, 3⟩) content
    let step' : Step := .below (.view "list") content
    Counterparts ctx ctx' step step' ⟨10, 4, 7, 3⟩ "list" .below ∧ v.Shows step.kind ∧
      (v.beginTransition 4).Shows step'.kind ∧ v.outfit = (v.beginTransition 4).outfit ∧
      ((v.beginTransition 4).layout step' ctx' 9).2 = .ok ⟨⟨10, 11, 16, 3⟩, some ⟨⟨17, 10, 3, 1⟩, .up⟩⟩ ∧
      Run.holeTarget {} step' ctx' none = ⟨18, 7, 9, 5⟩ := by
  intro content ctx ctx' v step step'
  have hCounterparts : Counterparts ctx ctx' step step' ⟨10, 4, 7, 3⟩ "list" .below :=
    ⟨rfl, rfl, rfl, rfl, by decide, by decide⟩
  have hShows : v.Shows step.kind := .fresh ..
  have hShows' : (v.beginTransition 4).Shows step'.kind := .begun ..
  obtain ⟨hPlaces, hHole⟩ := anchors_agree.2 ctx ctx' step step' _ _ _ hCounterparts
  obtain ⟨placed, hHere, hThere, -⟩ := hPlaces v (v.beginTransition 4) hShows hShows' rfl 0 9
  -- what the rectangle leads to is a computation
  have hValue : (v.layout step ctx 0).2 = .ok ⟨⟨10, 11, 16, 3⟩, some ⟨⟨17, 10, 3, 1⟩, .up⟩⟩ := by
    decide +kernel
  obtain rfl : placed = ⟨⟨10, 11, 16, 3⟩, some ⟨⟨17, 10, 3, 1⟩, .up⟩⟩ := Except.ok.inj (hHere.symm.trans hValue)
  refine ⟨hCounterparts, hShows, hShows', rfl, hThere, (hHole {} none).trans ?_⟩
  decide +kernel

end GuidedTour
